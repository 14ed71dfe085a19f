import DeskShell.Proofs.Filtering
import DeskShell.Proofs.Guards
import DeskShell.Proofs.Numerals
import DeskShell.Proofs.Renaming
import DeskShell.Proofs.Switches
import DeskShell.Proofs.Trails

/-!
# The two ends of a text

`head` and `tail` give the first and the last part of a text, in lines or in characters. Lines are
the pieces of the text at newlines, and joining them gives the text back, so the parts fit together
at every line. In characters `tail` takes a count between the length of the text and its double for
its excess over the length, and gives so much less than the whole text.

* `Builtin.Asks`: the arguments give a count in one measure; `Builtin.asks_count`,
  `Builtin.asks_negative`: as it is written on a command line.
* `Builtin.not_asks_dash`: a negative number that stands by itself is not a count.
* `Builtin.Takes`: they also say which text the part is of. `Builtin.head_of_takes` and
  `Builtin.tail_of_takes` give the part.
* `Builtin.lastOf_chars`: how long the end of a text is that `tail` gives.
* `Builtin.chars_excerpts`: when it is as long as it is asked for.
* `Builtin.lines_excerpts`: the lines at both ends, and how they fit together.
-/
namespace DeskShell

open Builtin (Program)

variable {C : Type}

/-! ## Lines -/

namespace Text

theorem unlines_take_drop {k : Nat} {s : String} (hpos : 0 < k) (hk : k < (lines s).length) :
    unlines ((lines s).take k) ++ "\n" ++ unlines ((lines s).drop k) = s := by
  have htake : (lines s).take k ≠ [] := by
    rw [ne_eq, List.take_eq_nil_iff]
    rintro (h | h)
    · omega
    · exact lines_ne_nil s h
  have hdrop : (lines s).drop k ≠ [] := by
    rw [ne_eq, List.drop_eq_nil_iff]
    omega
  rw [← unlines_append htake hdrop, List.take_append_drop, unlines_lines]

end Text

namespace Args

variable {name text : String}

theorem not_sets_plain {arg : String} (h : startsWithDash arg = false) :
    ¬ Sets arg name (.text text) := by
  intro hsets
  rcases toList_of_sets_text hsets with ⟨body, hbody⟩ | ⟨c, hc, -⟩
  · simp [startsWithDash, hbody] at h
  · simp [startsWithDash, hc] at h

/-- A negative number is a group of letters, none of which takes a text. -/
theorem not_sets_negative (k : Nat) : ¬ Sets ("-" ++ toString k) name (.text text) := by
  intro hsets
  have hlist : ("-" ++ toString k).toList = '-' :: (toString k).toList := by simp
  have hdigits : ∀ c ∈ (toString k).toList, c.isDigit = true := fun c hc =>
    Text.isDigit_of_mem_toString hc
  have htext := toList_of_sets_text hsets
  rw [hlist] at htext
  rcases htext with ⟨body, hbody⟩ | ⟨c, hc, htakes⟩
  · rw [(List.cons.inj hbody).2] at hdigits
    cases hdigits '-' List.mem_cons_self
  · rw [(List.cons.inj hc).2] at hdigits
    have hdigit := hdigits c List.mem_cons_self
    have hletter : c = 'n' ∨ c = 'c' := by simpa [takesText] using htakes
    rcases hletter with rfl | rfl
    · cases hdigit
    · cases hdigit

end Args

namespace Builtin

variable {σ : Session C} {args : List String} {stdin content : String} {m : Measure} {count : Int}

/-! ## What is asked for -/

/-- The flag of a measure. -/
def Measure.flag : Measure → String
  | lines => "n"
  | chars => "c"

/-- The arguments give a count with the flag of this measure and none with the flag of the other. -/
structure Asks (args : List String) (m : Measure) (count : Int) : Prop where
  given : ∃ text, (Args.parse args).get? m.flag = some (.text text) ∧
    Text.readInteger? text = some count
  alone : ∀ m' ≠ m, ∀ text, (Args.parse args).get? m'.flag ≠ some (.text text)

/-- The arguments ask for this much of the text `content`. -/
structure Takes (σ : Session C) (args : List String) (stdin : String) (m : Measure) (count : Int)
    (content : String) : Prop extends Asks args m count where
  feeds : σ.Feeds (Args.parse args).operands stdin content

/-- The flag of a measure, its count, and operands. -/
theorem parse_count (m : Measure) {value : String} (hvalue : Args.startsWithDash value = false)
    {operands : List String} (h : ∀ o ∈ operands, Args.startsWithDash o = false) :
    (Args.parse (("-" ++ m.flag) :: value :: operands)).flags = [(m.flag, .text value)] ∧
      (Args.parse (("-" ++ m.flag) :: value :: operands)).operands = operands := by
  have hparse : Args.parse (("-" ++ m.flag) :: value :: operands) =
      Args.readFrom (({} : Args).setText (if m = .lines then 'n' else 'c') value) operands := by
    cases m <;> simp [Args.parse, Args.readFrom, Measure.flag, Args.shapeOf, Args.takesText, hvalue]
  rw [hparse, Args.readFrom_plain h]
  cases m <;> exact ⟨rfl, rfl⟩

theorem asks_of_flags {value : String} (h : (Args.parse args).flags = [(m.flag, .text value)])
    (hcount : Text.readInteger? value = some count) : Asks args m count := by
  refine ⟨⟨value, ?_, hcount⟩, fun m' hm' text => ?_⟩
  · simp [Args.get?, h, Table.get?]
  · cases m <;> cases m' <;> simp_all [Args.get?, Table.get?, Measure.flag]

theorem asks_count (m : Measure) {value : String} (hvalue : Args.startsWithDash value = false)
    (hcount : Text.readInteger? value = some count) {operands : List String}
    (h : ∀ o ∈ operands, Args.startsWithDash o = false) :
    Asks (("-" ++ m.flag) :: value :: operands) m count :=
  asks_of_flags (parse_count m hvalue h).1 hcount

/-- A count in decimal digits. -/
theorem asks_digits (m : Measure) {k : Nat} (hk : k < 10 ^ Text.maxDigits) {operands : List String}
    (h : ∀ o ∈ operands, Args.startsWithDash o = false) :
    Asks (("-" ++ m.flag) :: toString k :: operands) m k := by
  have hvalue : Args.startsWithDash (toString k) = false := by
    have hhead : ∀ c ∈ (toString k).toList.head?, c.isDigit = true := fun c hc =>
      Text.isDigit_of_mem_toString (List.mem_of_mem_head? hc)
    rw [← Bool.not_eq_true, Args.startsWithDash, beq_iff_eq]
    intro hdash
    cases hhead '-' hdash
  exact asks_count m hvalue (Text.readInteger?_toString hk) h

/-- A flag in two dashes, with its count behind an equals sign. -/
theorem asks_long (m : Measure) {value : String} (hcount : Text.readInteger? value = some count)
    {operands : List String} (h : ∀ o ∈ operands, Args.startsWithDash o = false) :
    Asks (("--" ++ m.flag ++ "=" ++ value) :: operands) m count := by
  have hparse : Args.parse (("--" ++ m.flag ++ "=" ++ value) :: operands) =
      Args.readFrom (({} : Args).setFlag m.flag (.text value)) operands := by
    cases m <;> simp [Args.parse, Args.readFrom, Measure.flag, Args.shapeOf, Args.setLong]
  refine asks_of_flags ?_ hcount
  rw [hparse, Args.readFrom_plain h]
  rfl

/-- A negative count is written so. -/
theorem asks_negative (m : Measure) {k : Nat} (hk : k < 10 ^ Text.maxDigits)
    {operands : List String} (h : ∀ o ∈ operands, Args.startsWithDash o = false) :
    Asks (("--" ++ m.flag ++ "=-" ++ toString k) :: operands) m (-k) := by
  have hasks := asks_long m (Text.readInteger?_neg_toString hk) h
  have htext : "--" ++ m.flag ++ "=" ++ ("-" ++ toString k) =
      "--" ++ m.flag ++ "=-" ++ toString k := by
    rw [show "=-" = "=" ++ "-" from rfl]
    simp only [String.append_assoc]
  rwa [htext] at hasks

/-- A negative number by itself is a group of flags, and the flag in front of it has no count. -/
theorem not_asks_dash (m : Measure) (k : Nat) {operands : List String}
    (h : ∀ o ∈ operands, Args.startsWithDash o = false) :
    ¬ Asks (("-" ++ m.flag) :: ("-" ++ toString k) :: operands) m count := by
  have hletter : ∃ c, Args.shapeOf ("-" ++ m.flag) = .letters c [] ∧
      String.singleton c = m.flag := by
    cases m
    · exact ⟨'n', rfl, rfl⟩
    · exact ⟨'c', rfl, rfl⟩
  obtain ⟨c, hshape, hflag⟩ := hletter
  have hnone : ∀ next ∈ (("-" ++ toString k) :: operands).head?,
      (([] : List Char).isEmpty && Args.takesText c && !Args.startsWithDash next) = false := by
    intro next hnext
    obtain rfl := Option.some.inj hnext
    simp [Args.startsWithDash]
  have hparse : Args.parse (("-" ++ m.flag) :: ("-" ++ toString k) :: operands) =
      Args.readFrom (({} : Args).setFlag m.flag .on) (("-" ++ toString k) :: operands) := by
    rw [Args.parse, Args.readFrom_eq, Args.piecesOf_letters hshape hnone, List.foldl_cons,
      ← Args.readFrom_eq, ← hflag]
    rfl
  rintro ⟨⟨text, htext, -⟩, -⟩
  rw [hparse] at htext
  rcases Args.sets_of_readFrom htext with hon | ⟨arg, harg, hsets⟩
  · simp [Args.get?, Args.setFlag, Table.get?_put] at hon
  · rcases List.mem_cons.mp harg with rfl | harg
    · exact Args.not_sets_negative k hsets
    · exact Args.not_sets_plain (h arg harg) hsets

theorem extentOf_of_asks (h : Asks args m count) (command : String) :
    extentOf command (Args.parse args) = .ok ⟨m, count⟩ := by
  obtain ⟨text, hflag, hcount⟩ := h.given
  have hyes : ((Args.parse args).get? m.flag).bind FlagValue.text? = some text := by
    rw [hflag]
    rfl
  have hno : ∀ m' ≠ m, ((Args.parse args).get? m'.flag).bind FlagValue.text? = none := by
    intro m' hm'
    cases hother : (Args.parse args).get? m'.flag with
    | none => rfl
    | some v =>
      cases v with
      | on => rfl
      | text value => exact absurd hother (h.alone m' hm' value)
  unfold extentOf readExtent
  cases m with
  | lines =>
    have hchars := hno .chars (by decide)
    simp only [Measure.flag] at hyes hchars
    simp only [hyes, hchars, hcount, bind, Except.bind]
  | chars =>
    have hlines := hno .lines (by decide)
    simp only [Measure.flag] at hyes hlines
    simp only [hyes, hlines, hcount, bind, Except.bind]

theorem excerpt_of_takes (h : Takes σ args stdin m count content) (command : String)
    (part : Extent → String → String) :
    excerpt command part args stdin σ = .ok (.out (part ⟨m, count⟩ content)) := by
  simp only [excerpt, extentOf_of_asks h.toAsks, Session.readOperand_of_feeds h.feeds, bind,
    Except.bind]
  rfl

theorem head_of_takes (h : Takes σ args stdin m count content) :
    head args stdin σ = .ok (.out (firstOf ⟨m, count⟩ content)) :=
  excerpt_of_takes h "head" firstOf

theorem tail_of_takes (h : Takes σ args stdin m count content) :
    tail args stdin σ = .ok (.out (lastOf ⟨m, count⟩ content)) :=
  excerpt_of_takes h "tail" lastOf

/-! ## Characters -/

theorem firstOf_chars (k : Nat) (content : String) : ∃ rest,
    content = firstOf ⟨.chars, k⟩ content ++ rest ∧
      (firstOf ⟨.chars, k⟩ content).length = min k content.length := by
  refine ⟨String.ofList (content.toList.drop k), ?_, ?_⟩
  · simp [firstOf, ← String.ofList_append]
  · simp [firstOf, String.length_toList]

/-- The end of a text has the length that is asked for, but for a count between the length of the
text and its double: it has the length of the excess then. -/
theorem lastOf_chars (k : Nat) (content : String) : ∃ rest,
    content = rest ++ lastOf ⟨.chars, k⟩ content ∧
      (lastOf ⟨.chars, k⟩ content).length =
        if content.length < k ∧ k < 2 * content.length then k - content.length
        else min k content.length := by
  let size := content.length
  let start := if k ≤ size then size - k else 2 * size - k
  have hlast : lastOf ⟨.chars, k⟩ content = String.ofList (content.toList.drop start) := by
    simp [lastOf, start, size]
  have hlength : content.toList.length = size := String.length_toList
  refine ⟨String.ofList (content.toList.take start), ?_, ?_⟩
  · rw [hlast, ← String.ofList_append, List.take_append_drop, String.ofList_toList]
  · rw [hlast, String.length_ofList, List.length_drop, hlength]
    simp only [start]
    split <;> split <;> omega

/-- `head` gives as many characters from the start of a text as are asked for, or all of them.
`tail` gives as many from its end if and only if they are at most all or at least twice as many; for
counts between it gives so many less than all as the count is short of the double. So a text is the
part that `head` gives and the part that `tail` gives of the rest. All counts may be asked for that
have no more digits than are read. -/
theorem chars_excerpts (σ : Session C) (stdin content : String) :
    (∀ k : Nat, k < 10 ^ Text.maxDigits → ∀ operands : List String,
      (∀ o ∈ operands, Args.startsWithDash o = false) →
      Asks ("-c" :: toString k :: operands) .chars k) ∧
    (∀ (args : List String) (k : Nat), Takes σ args stdin .chars k content →
      (∃ first rest, content = first ++ rest ∧ first.length = min k content.length ∧
        head args stdin σ = .ok (.out first)) ∧
      ∃ rest last, content = rest ++ last ∧ tail args stdin σ = .ok (.out last) ∧
        (last.length = min k content.length ↔ k ≤ content.length ∨ 2 * content.length ≤ k) ∧
        (content.length < k → k < 2 * content.length → last.length = k - content.length)) ∧
    ∀ (args args' : List String) (k : Nat), k ≤ content.length →
      Takes σ args stdin .chars k content →
      Takes σ args' stdin .chars (content.length - k : Nat) content →
      ∃ first last, head args stdin σ = .ok (.out first) ∧ tail args' stdin σ = .ok (.out last) ∧
        first ++ last = content := by
  refine ⟨fun k hk operands h => asks_digits .chars hk h, fun args k h => ⟨?_, ?_⟩,
    fun args args' k hk h h' => ?_⟩
  · obtain ⟨rest, hcontent, hlength⟩ := firstOf_chars k content
    exact ⟨_, rest, hcontent, hlength, head_of_takes h⟩
  · obtain ⟨rest, hcontent, hlength⟩ := lastOf_chars k content
    refine ⟨rest, _, hcontent, tail_of_takes h, ?_, fun hlow hhigh => ?_⟩
    · rw [hlength]
      split <;> omega
    · rw [hlength, if_pos ⟨hlow, hhigh⟩]
  · obtain ⟨rest, hfirst, hlength⟩ := firstOf_chars k content
    obtain ⟨rest', hlast, hlength'⟩ := lastOf_chars (content.length - k) content
    refine ⟨_, _, head_of_takes h, tail_of_takes h', ?_⟩
    -- The text is cut at the same place both times.
    rw [if_neg (by omega)] at hlength'
    have hcut := congrArg String.length hlast
    rw [String.length_append] at hcut
    have hboth := congrArg String.toList (hfirst.symm.trans hlast)
    rw [String.toList_append, String.toList_append] at hboth
    have hsame := (List.append_inj hboth (by simp only [String.length_toList]; omega)).1
    rw [String.toList_inj.mp hsame, ← hlast]

/-! ## Lines at both ends -/

theorem firstOf_lines (count : Int) (content : String) : firstOf ⟨.lines, count⟩ content =
    Text.unlines ((Text.lines content).take (min count.toNat (Text.lines content).length)) := by
  rw [firstOf, ← List.take_take, List.take_length]

theorem lastOf_lines (count : Int) (content : String) : lastOf ⟨.lines, count⟩ content =
    Text.unlines ((Text.lines content).drop
      ((Text.lines content).length - min count.toNat (Text.lines content).length)) := by
  have hstart : (Text.lines content).length - min count.toNat (Text.lines content).length =
      (Text.lines content).length - count.toNat := by
    omega
  rw [hstart, lastOf]

theorem lastOf_firstOf {m : Nat} (hpos : 0 < m) (hm : m ≤ (Text.lines content).length) (k : Nat) :
    lastOf ⟨.lines, k⟩ (firstOf ⟨.lines, m⟩ content) =
      Text.unlines (((Text.lines content).take m).drop (m - k)) := by
  have hne : (Text.lines content).take m ≠ [] := by
    rw [ne_eq, List.take_eq_nil_iff]
    rintro (h | h)
    · omega
    · exact Text.lines_ne_nil content h
  have hlines : Text.lines (firstOf ⟨.lines, m⟩ content) = (Text.lines content).take m :=
    Text.lines_unlines_of_subset hne (List.take_subset m _)
  rw [lastOf]
  simp only [hlines, List.length_take, Nat.min_eq_left hm, Int.toNat_natCast]

/-- `head` gives the first lines of a text and `tail` the last, as many as are asked for, or all of
them, and none for a negative count. So a text is its first lines, a newline and the others, and the
last of its first lines are the lines between two places, also when they come through a pipe. All
counts may be asked for that have no more digits than are read: a negative one has to stand behind
an equals sign, and by itself it gives no count. -/
theorem lines_excerpts (σ : Session C) (stdin content : String) :
    let L := Text.lines content
    (∀ k : Nat, k < 10 ^ Text.maxDigits → ∀ operands : List String,
      (∀ o ∈ operands, Args.startsWithDash o = false) →
      Asks ("-n" :: toString k :: operands) .lines k ∧
        Asks (("--n=-" ++ toString k) :: operands) .lines (-k) ∧
        ∀ count, ¬ Asks ("-n" :: ("-" ++ toString k) :: operands) .lines count) ∧
    (∀ (args : List String) (count : Int), Takes σ args stdin .lines count content →
      let k := min count.toNat L.length
      head args stdin σ = .ok (.out (Text.unlines (L.take k))) ∧
        tail args stdin σ = .ok (.out (Text.unlines (L.drop (L.length - k))))) ∧
    (∀ (args args' : List String) (k : Nat), 0 < k → k < L.length →
      Takes σ args stdin .lines k content →
      Takes σ args' stdin .lines (L.length - k : Nat) content →
      ∃ first last, head args stdin σ = .ok (.out first) ∧ tail args' stdin σ = .ok (.out last) ∧
        first ++ "\n" ++ last = content) ∧
    (∀ (args : List String) (m : Nat), 0 < m → m ≤ L.length →
      Takes σ args stdin .lines m content → ∃ first, head args stdin σ = .ok (.out first) ∧
        ∀ (args' : List String) (k : Nat), Takes σ args' first .lines k first →
          tail args' first σ = .ok (.out (Text.unlines ((L.take m).drop (m - k))))) ∧
    ∀ (run : C → List String → String → Run C Reply) (c d : Command) (k m : Nat),
      0 < m → m ≤ L.length → σ.limit = none →
      σ.Serves run c.name .head → c.redirect = none → σ.Serves run d.name .tail →
      d.redirect = none → Takes σ c.args stdin .lines m content →
      Asks d.args .lines k → (Args.parse d.args).operands = [] →
      ∃ τ, Engine.runPipeline run [c, d] stdin σ =
        .ok (.out (Text.unlines ((L.take m).drop (m - k)))) τ := by
  intro L
  refine ⟨fun k hk operands h => ⟨asks_digits .lines hk h, asks_negative .lines hk h,
      fun count => not_asks_dash .lines k h⟩,
    fun args count h => ⟨?_, ?_⟩, fun args args' k hpos hk h h' => ?_,
    fun args m hpos hm h => ⟨_, head_of_takes h, fun args' k h' => ?_⟩,
    fun run c d k m hpos hm hlimit hc hcplain hd hdplain h hasks hnone => ?_⟩
  · rw [head_of_takes h, firstOf_lines]
  · rw [tail_of_takes h, lastOf_lines]
  · refine ⟨_, _, head_of_takes h, tail_of_takes h', ?_⟩
    have hstart : L.length - (L.length - k) = k := by omega
    simp only [firstOf, lastOf, Int.toNat_natCast]
    rw [hstart]
    exact Text.unlines_take_drop hpos hk
  · rw [tail_of_takes h', lastOf_firstOf hpos hm]
  · have hfeeds : σ.Feeds (Args.parse d.args).operands (firstOf ⟨.lines, m⟩ content)
        (firstOf ⟨.lines, m⟩ content) := by
      rw [hnone]
      rfl
    have htail := tail_of_takes ⟨hasks, hfeeds⟩
    rw [lastOf_firstOf hpos hm] at htail
    exact ⟨_, Engine.runPipeline_pair hlimit hc hcplain hd hdplain rfl (head_of_takes h) rfl htail
      rfl⟩

end Builtin

namespace Desktop

open Builtin (Asks Takes)

/-- Two characters from each end of a file. -/
theorem chars_excerpts_two : ∃ σ, session {} 0 (fun _ => .unset) = .ok σ ∧
    let τ := σ.play [⟨"echo \"b\na\n\nb\" > f", 1⟩]
    let args := ["-c", "2", "f"]
    Takes τ args "" .chars 2 "b\na\n\nb" ∧
      (∃ first rest, "b\na\n\nb" = first ++ rest ∧ first.length = 2 ∧
        Builtin.head args "" τ = .ok (.out first)) ∧
      ∃ rest last, "b\na\n\nb" = rest ++ last ∧ last.length = 2 ∧
        Builtin.tail args "" τ = .ok (.out last) := by
  obtain ⟨σ, hσ, hholds, -⟩ := exists_written
  obtain ⟨hasks, hparts, -⟩ := Builtin.chars_excerpts (σ.play [⟨"echo \"b\na\n\nb\" > f", 1⟩]) ""
    "b\na\n\nb"
  have htakes : Takes _ ["-c", "2", "f"] "" .chars (2 : Nat) "b\na\n\nb" :=
    ⟨hasks 2 (Text.lt_of_lt_ten (by decide)) ["f"] (by decide), hholds⟩
  obtain ⟨hhead, rest, last, hlast, htail, hiff, -⟩ := hparts _ _ htakes
  exact ⟨σ, hσ, htakes, hhead, rest, last, hlast, hiff.mpr (.inl (by decide)), htail⟩

/-- Of a text of four characters `tail` gives one when it is asked for five. -/
theorem tail_chars_loses : ∃ σ, session {} 0 (fun _ => .unset) = .ok σ ∧
    Takes σ ["-c", "5"] "abcd" .chars 5 "abcd" ∧
    Builtin.tail ["-c", "5"] "abcd" σ = .ok (.out "d") ∧
    Builtin.tail ["-c", "5"] "abcd" σ ≠ .ok (.out "abcd") := by
  obtain ⟨σ, hσ, -⟩ := exists_session {} 0 fun _ => .unset
  have htakes : Takes σ ["-c", "5"] "abcd" .chars (5 : Nat) "abcd" :=
    ⟨Builtin.asks_count .chars (by decide) (by decide) (List.forall_mem_nil _), rfl⟩
  have htail := Builtin.tail_of_takes htakes
  have hd : Builtin.lastOf ⟨.chars, (5 : Nat)⟩ "abcd" = "d" := by decide
  rw [hd] at htail
  refine ⟨σ, hσ, htakes, htail, ?_⟩
  rw [htail]
  decide

/-- The second and the third line of a file come through a pipe; its first three lines and the last
make it up; and there is no line for a negative count, however it is written. -/
theorem lines_excerpts_four : ∃ σ, session {} 0 (fun _ => .unset) = .ok σ ∧
    let τ := σ.play [⟨"echo \"b\na\n\nb\" > f", 1⟩]
    (∃ υ, Engine.runPipeline Program.run
      [⟨"head", ["-n", "3", "f"], none⟩, ⟨"tail", ["-n", "2"], none⟩] "" τ =
        .ok (.out "a\n") υ) ∧
    (∃ first last, Builtin.head ["-n", "3", "f"] "" τ = .ok (.out first) ∧
      Builtin.tail ["-n", "1", "f"] "" τ = .ok (.out last) ∧
      first ++ "\n" ++ last = "b\na\n\nb") ∧
    Builtin.tail ["-n", " -3", "f"] "" τ = .ok (.out "") ∧
    Builtin.tail ["--n=-3", "f"] "" τ = .ok (.out "") := by
  obtain ⟨σ, hσ, hholds, hlimit, hserves⟩ := exists_written
  have hthree : Takes _ ["-n", "3", "f"] "" .lines (3 : Nat) "b\na\n\nb" :=
    ⟨Builtin.asks_count .lines (by decide) (by decide) (by decide), hholds⟩
  have hone : Takes _ ["-n", "1", "f"] "" .lines (1 : Nat) "b\na\n\nb" :=
    ⟨Builtin.asks_count .lines (by decide) (by decide) (by decide), hholds⟩
  have hnegative : Takes _ ["-n", " -3", "f"] "" .lines (-3) "b\na\n\nb" :=
    ⟨Builtin.asks_count .lines (by decide) (by decide) (by decide), hholds⟩
  have htwo : Asks ["-n", "2"] .lines (2 : Nat) :=
    Builtin.asks_count .lines (by decide) (by decide) (List.forall_mem_nil _)
  obtain ⟨hgives, hends, hfit, -, hpipe⟩ := Builtin.lines_excerpts _ "" "b\na\n\nb"
  have hlong : Takes _ ["--n=-3", "f"] "" .lines (-3 : Int) "b\na\n\nb" :=
    ⟨(hgives 3 (Text.lt_of_lt_ten (by decide)) ["f"] (by decide)).2.1, hholds⟩
  have hpiped := hpipe Program.run ⟨"head", ["-n", "3", "f"], none⟩ ⟨"tail", ["-n", "2"], none⟩ 2 3
    (by decide) (by decide) hlimit (hserves .head) rfl (hserves .tail) rfl hthree htwo rfl
  exact ⟨σ, hσ, hpiped, hfit _ _ 3 (by decide) (by decide) hthree hone, (hends _ _ hnegative).2,
    (hends _ _ hlong).2⟩

end Desktop
end DeskShell
