import DeskShell.Proofs.Accounts
import DeskShell.Terminal.Interact

/-!
# Interactive sessions

The program answers lines behind a prompt until one of them ends the session or the input ends. What
it writes is put together from what the lines come to one after the other in a single session.

* `Terminal.exists_inputLines`: the lines of an input.
* `Terminal.Told`: what the host may be told, and what it writes then;
  `Terminal.Told.signalText_signal`: the program writes that.
* `Terminal.Answered`: what comes of a line; `Terminal.Dialogue`: lines that are carried out one
  after the other.
* `Terminal.exists_turn`: a line at the prompt comes to what it does in a dialogue.
* `Terminal.Closes`: where a dialogue ends and what is written then.
* `Terminal.interact_closes`: an interactive session, from one line to the next.
* `Terminal.run_shell`: a whole run of the program.
-/
namespace DeskShell

open Builtin (Program)

/-! ## The lines of an input -/

namespace Text

/-- Lines joined with newlines, of which the last is apart. -/
theorem unlines_concat (full : List String) (rest : String) :
    unlines (full ++ [rest]) = String.join (full.map (· ++ "\n")) ++ rest := by
  induction full with
  | nil => simp [unlines_singleton]
  | cons l full ih =>
    rw [List.cons_append, ← List.singleton_append, unlines_append (List.cons_ne_nil l []) (by simp),
      unlines_singleton, ih]
    simp [String.append_assoc]

end Text

namespace Terminal

/-- The lines of an input end with the newlines in it, and what stands behind the last newline is a
line too, unless it is empty. -/
theorem exists_inputLines (input : String) : ∃ full rest,
    input = String.join (full.map (· ++ "\n")) ++ rest ∧ (∀ l ∈ full, '\n' ∉ l.toList) ∧
      '\n' ∉ rest.toList ∧ inputLines input = full ++ if rest = "" then [] else [rest] := by
  have hne : Text.lines input ≠ [] := Text.pieces_ne_nil '\n' input
  have hsplit := List.dropLast_append_getLast hne
  refine ⟨(Text.lines input).dropLast, (Text.lines input).getLast hne, ?_, fun l hl => ?_, ?_, ?_⟩
  · rw [← Text.unlines_concat, hsplit, Text.unlines_lines]
  · exact Text.notMem_of_mem_pieces (List.dropLast_subset _ hl)
  · exact Text.notMem_of_mem_pieces (List.getLast_mem hne)
  · unfold inputLines
    dsimp only
    rw [List.getLast?_eq_some_getLast hne]
    by_cases hrest : (Text.lines input).getLast hne = ""
    · simp [hrest]
    · simp [hrest, hsplit]

/-! ## Times -/

theorem typed_lines (clock : Clock) (lines : List String) :
    (typed clock lines).map (·.line) = lines := by
  simp [typed, Function.comp_def, List.zipIdx_map_fst]

theorem typed_clock {clock : Clock} {lines : List String} {i : Nat} {t : Typed}
    (h : (typed clock lines)[i]? = some t) : t.clock = clock (i + 1) := by
  rw [typed, List.getElem?_map, List.getElem?_zipIdx, Option.map_map, Option.map_eq_some_iff] at h
  obtain ⟨line, -, rfl⟩ := h
  simp

/-! ## What the host is told -/

/-- What the host may be told: a colour is in three parts. -/
inductive Told
  | clear
  | exit
  | blueScreen
  | color (red green blue : Fin 256)
  deriving DecidableEq

namespace Told

/-- Two digits to the base 16. -/
def digits (part : Fin 256) : List Char :=
  [Nat.digitChar (part.val / 16), Nat.digitChar (part.val % 16)]

def signal : Told → Signal
  | clear => .clear
  | exit => .exit
  | blueScreen => .blueScreen
  | color r g b => .color (String.ofList ('#' :: (digits r ++ digits g ++ digits b)))

/-- What the host writes on being told. -/
def text : Told → String
  | clear => "\x1b[2J\x1b[H"
  | exit => ""
  | blueScreen =>
    "A fatal exception 0E has occurred at 0028:C0011E36 in VXD VMM(01) +\n" ++
    "00010E36. The current application will be terminated.\n" ++
    "\n" ++
    "*  Press any key to terminate the current application.\n" ++
    "*  Press CTRL+ALT+DEL again to restart your computer. You will\n" ++
    "   lose any unsaved information in all applications.\n"
  | color r g b => s!"\x1b[38;2;{r};{g};{b}m"

theorem hexValue_digitChar : ∀ d : Fin 16, hexValue (Nat.digitChar d) = d := by decide

theorem hexValue_digits (part : Fin 256) : ∃ high low : Nat,
    (digits part).map hexValue = [high, low] ∧ 16 * high + low = part := by
  have hhigh : part.val / 16 < 16 := by omega
  have hlow : part.val % 16 < 16 := by omega
  refine ⟨part.val / 16, part.val % 16, ?_, by omega⟩
  have h := hexValue_digitChar ⟨_, hhigh⟩
  have h' := hexValue_digitChar ⟨_, hlow⟩
  simp only [digits, List.map_cons, List.map_nil, h, h']

/-- The host writes what it is meant to write. -/
theorem signalText_signal (e : Told) : signalText e.signal = e.text := by
  cases e with
  | clear => rfl
  | exit => rfl
  | blueScreen => decide +kernel
  | color r g b =>
    obtain ⟨rh, rl, hr, hred⟩ := hexValue_digits r
    obtain ⟨gh, gl, hg, hgreen⟩ := hexValue_digits g
    obtain ⟨bh, bl, hb, hblue⟩ := hexValue_digits b
    simp only [signal, signalText, colorText, colorParts, String.toList_ofList, List.map_cons,
      List.map_append, hr, hg, hb, List.cons_append, List.nil_append, List.map_nil, hred, hgreen,
      hblue]
    rfl

/-- The colours of the palette. -/
def shades : List Told := [
  color 0 0 0, color 0 0 170, color 0 170 0, color 0 170 170,
  color 170 0 0, color 170 0 170, color 170 85 0, color 170 170 170,
  color 85 85 85, color 85 85 255, color 85 255 85, color 85 255 255,
  color 255 85 85, color 255 85 255, color 255 255 85, color 255 255 255]

/-- Whatever is signalled is something that the host may be told. -/
theorem exists_signal {s : Signal} (hs : s.Given) : ∃ e : Told, e.signal = s := by
  have hpalette : Builtin.palette.map (Signal.color ·.2) = shades.map signal := by decide +kernel
  cases s with
  | clear => exact ⟨clear, rfl⟩
  | exit => exact ⟨exit, rfl⟩
  | blueScreen => exact ⟨blueScreen, rfl⟩
  | color hex =>
    obtain ⟨code, hcode⟩ := hs
    have hmem : .color hex ∈ Builtin.palette.map (Signal.color ·.2) :=
      List.mem_map_of_mem (f := (Signal.color ·.2)) (Table.mem_of_get? hcode)
    rw [hpalette] at hmem
    obtain ⟨e, -, he⟩ := List.mem_map.mp hmem
    exact ⟨e, he⟩

theorem exists_signals {signals : List Signal} (h : ∀ s ∈ signals, s.Given) :
    ∃ told : List Told, told.map signal = signals := by
  induction signals with
  | nil => exact ⟨[], rfl⟩
  | cons s signals ih =>
    obtain ⟨hs, hrest⟩ := List.forall_mem_cons.mp h
    obtain ⟨e, rfl⟩ := exists_signal hs
    obtain ⟨told, rfl⟩ := ih hrest
    exact ⟨e :: told, rfl⟩

theorem signal_eq_exit_iff {e : Told} : e.signal = .exit ↔ e = exit := by
  cases e <;> simp [signal]

theorem signal_eq_blueScreen_iff {e : Told} : e.signal = .blueScreen ↔ e = blueScreen := by
  cases e <;> simp [signal]

end Told

/-! ## Dialogues -/

/-- What comes of a line at the prompt: the path that is displayed there, what the line tells the
host, first things first, and its result. -/
structure Answered where
  shown : String
  told : List Told
  result : Result

namespace Answered

/-- The prompt, what the host writes on being told, and the output of the line, on a line of its own
if there is any. -/
def text (a : Answered) : String :=
  a.shown ++ ">" ++ String.join (a.told.map Told.text) ++
    if a.result.stdout = "" then "" else a.result.stdout ++ "\n"

/-- The host has been told to end the session. -/
def Ends (a : Answered) : Prop := .exit ∈ a.told ∨ .blueScreen ∈ a.told

end Answered

/-- Lines are carried out one after the other in one session, from `σ` to `τ`, each at the time at
which it is typed. -/
inductive Dialogue : Session Program → List Typed → List Answered → Session Program → Prop
  | nil (σ : Session Program) : Dialogue σ [] [] σ
  | cons {σ τ ρ : Session Program} {t : Typed} {ts : List Typed} {a : Answered} {as : List Answered}
      (hshown : a.shown = σ.shown)
      (hline : Engine.execute Program.run t.line { σ with clock := t.clock } = .ok a.result τ)
      (htold : τ.signals = (a.told.map Told.signal).reverse ++ σ.signals)
      (hrest : Dialogue τ ts as ρ) : Dialogue σ (t :: ts) (a :: as) ρ

/-- A line that ends the session without being carried out. -/
def Quits (line : String) : Prop := Text.trim line = ":q" ∨ Text.trim line = "quit"

theorem asksToQuit_iff {line : String} : asksToQuit line = true ↔ Quits line := by
  simp [asksToQuit, Quits]

variable {level : LogLevel} {t : Typed} {ts : List Typed} {σ υ : Session Program} {a : Answered}

theorem endingOf_told (told : List Told) : endingOf (told.map Told.signal).reverse =
    if .blueScreen ∈ told then some 1 else if .exit ∈ told then some 0 else none := by
  simp [endingOf, Told.signal_eq_exit_iff, Told.signal_eq_blueScreen_iff]

theorem endingOf_eq_none_iff {told : List Told} :
    endingOf (told.map Told.signal).reverse = none ↔ .exit ∉ told ∧ .blueScreen ∉ told := by
  rw [endingOf_told]
  split
  · next h => simp [h]
  · next h => simp [h]

theorem endingOf_eq_some {told : List Told} {code : Int}
    (h : endingOf (told.map Told.signal).reverse = some code) :
    (.exit ∈ told ∨ .blueScreen ∈ told) ∧ code = if .blueScreen ∈ told then 1 else 0 := by
  rw [endingOf_told] at h
  split at h
  · next hblue =>
    rw [if_pos hblue]
    exact ⟨.inr hblue, (Option.some.inj h).symm⟩
  · next hblue =>
    rw [if_neg hblue]
    split at h
    · next hexit => exact ⟨.inl hexit, (Option.some.inj h).symm⟩
    · cases h

/-- When the host has been told nothing else before, it is told nothing else now. -/
def StaysGiven (σ τ : Session Program) : Prop :=
  (∀ s ∈ σ.signals, s.Given) → ∀ s ∈ τ.signals, s.Given

theorem blind_staysGiven : Session.BlindFrame StaysGiven where
  refl _ h := h
  trans h h' hσ := h' (h hσ)
  note _ _ h := h
  signal _ _ hs h := List.forall_mem_cons.mpr ⟨hs, h⟩
  store _ _ h := h

/-- The built-in commands signal nothing that the host may not be told. -/
theorem staysGiven_execute (text : String) :
    (Engine.execute Program.run text).Keeps StaysGiven :=
  Engine.keeps_execute blind_staysGiven.toFrame (fun _ _ h => h) fun _ _ c _ stdin _ =>
    Engine.keeps_runCommand blind_staysGiven.toFrame
      (fun p _ => blind_staysGiven.keeps_runAll (fun _ _ _ h => h) p c.args stdin)
      fun r text _ => blind_staysGiven.keeps_write r text

/-- What a line signals is what it tells the host. -/
theorem exists_told {r : Result} {ρ : Session Program}
    (h : Engine.execute Program.run t.line σ.forget = .ok r ρ) :
    ∃ told : List Told, ρ.signals = (told.map Told.signal).reverse := by
  have hafter := staysGiven_execute t.line σ.forget (List.forall_mem_nil _)
  rw [Run.after, h] at hafter
  obtain ⟨told, htold⟩ :=
    Told.exists_signals fun s (hs : s ∈ ρ.signals.reverse) => hafter s (List.mem_reverse.mp hs)
  exact ⟨told, by rw [htold, List.reverse_reverse]⟩

/-- A line at the prompt comes to what it comes to in one session that keeps the accounts of all
lines. -/
theorem exists_turn (hσ : σ.forget = υ.forget) (hline : ¬ Quits t.line) (level : LogLevel) :
    ∃ (a : Answered) (τ : Session Program), a.shown = υ.shown ∧
      Engine.execute Program.run t.line { υ with clock := t.clock } = .ok a.result τ ∧
      τ.signals = (a.told.map Told.signal).reverse ++ υ.signals ∧
      prompt σ ++ (turn level t σ).output.stdout = a.text ∧
      (turn level t σ).session.forget = τ.forget ∧
      (turn level t σ).ending = endingOf (a.told.map Told.signal).reverse := by
  let υ' : Session Program := { υ with clock := t.clock }
  obtain ⟨r, ρ, hrun⟩ := Engine.exists_execute Program.run t.line υ'.forget
  obtain ⟨told, hsignals⟩ := exists_told hrun
  have hshown : σ.shown = υ.shown := Session.shown_eq_of_forget hσ
  have hstart : { σ with clock := t.clock, signals := [], notes := [] } = υ'.forget :=
    congrArg (fun τ : Session Program => { τ with clock := t.clock }) hσ
  have hturn : turn level t σ =
      ⟨outputOf level (String.join (ρ.signals.reverse.map signalText)) r ρ, ρ,
        endingOf ρ.signals⟩ := by
    unfold turn perform
    rw [if_neg (by rwa [asksToQuit_iff]), hstart, hrun]
  refine ⟨⟨υ.shown, told, r⟩, ρ.behind υ.signals υ.notes, rfl,
    Engine.execute_of_forget Program.heedless_run hrun, ?_, ?_, by rw [hturn]; rfl, ?_⟩
  · rw [← hsignals]
    rfl
  · have htexts : told.map Told.text = ρ.signals.reverse.map signalText := by
      simp [hsignals, Function.comp_def, Told.signalText_signal]
    rw [hturn, Answered.text, htexts]
    simp [prompt, outputOf, ended, hshown, String.append_assoc]
  · rw [hturn, hsignals]

/-- The first of the lines `ts`, with these answers, are all that is carried out; `τ` is the session
then, and `o` is what has been written. Either the last of them ends the session, or the next line
asks to quit or there is none, and a prompt for it has been written. -/
structure Closes (ts : List Typed) (as : List Answered) (τ : Session Program) (o : Output) :
    Prop where
  /-- No line before the end asks to quit. -/
  unquit : ∀ t ∈ ts.take as.length, ¬ Quits t.line
  /-- No line but the last ends the session. -/
  unended : ∀ a ∈ as.dropLast, ¬ a.Ends
  stdout : (∃ a, as.getLast? = some a ∧ a.Ends) ∧ o.stdout = String.join (as.map Answered.text) ∨
    (∀ a, as.getLast? = some a → ¬ a.Ends) ∧
      (as.length = ts.length ∨ ∃ t, ts[as.length]? = some t ∧ Quits t.line) ∧
      o.stdout = String.join (as.map Answered.text) ++ τ.shown ++ ">"
  exitCode : o.exitCode = if ∃ a, as.getLast? = some a ∧ .blueScreen ∈ a.told then 1 else 0

theorem getLast_cons_iff {a : Answered} {as : List Answered} {p : Answered → Prop} (h : ¬ p a) :
    (∃ b, (a :: as).getLast? = some b ∧ p b) ↔ ∃ b, as.getLast? = some b ∧ p b := by
  rw [List.getLast?_cons]
  cases as.getLast? with
  | none => simpa using h
  | some b => simp

/-- An answer that does not end the session, in front of others. -/
theorem Closes.cons {as : List Answered} {τ : Session Program} {o shown : Output}
    (h : Closes ts as τ o) (hline : ¬ Quits t.line) (ha : ¬ a.Ends)
    (hshown : shown.stdout = a.text) : Closes (t :: ts) (a :: as) τ (shown.after o) where
  unquit u hu := by
    rw [List.length_cons, List.take_succ_cons] at hu
    rcases List.mem_cons.mp hu with rfl | hu
    · exact hline
    · exact h.unquit u hu
  unended b hb := by
    cases as with
    | nil => simp at hb
    | cons c as =>
      rw [List.dropLast_cons_cons] at hb
      rcases List.mem_cons.mp hb with rfl | hb
      · exact ha
      · exact h.unended b hb
  stdout := by
    have hout : (shown.after o).stdout = a.text ++ o.stdout := by rw [← hshown]; rfl
    rw [getLast_cons_iff ha, hout, List.map_cons, String.join_cons]
    rcases h.stdout with ⟨hends, ho⟩ | ⟨hnone, hstop, ho⟩
    · exact .inl ⟨hends, by rw [ho]⟩
    · refine .inr ⟨fun b hb hends => ?_, ?_, by simp only [ho, String.append_assoc]⟩
      · obtain ⟨c, hc, hcends⟩ := (getLast_cons_iff ha).mp ⟨b, hb, hends⟩
        exact hnone c hc hcends
      · simpa using hstop
  exitCode := by
    have hblue : ¬ .blueScreen ∈ a.told := fun hb => ha (.inr hb)
    exact h.exitCode.trans (if_congr (getLast_cons_iff hblue).symm rfl rfl)

/-- An interactive session on the lines `ts`, which gives up the accounts of each line before the
next, is a dialogue in a session that keeps them. -/
theorem interact_closes (level : LogLevel) : ∀ (ts : List Typed) (σ υ : Session Program),
    σ.forget = υ.forget → ∃ as τ, Dialogue υ (ts.take as.length) as τ ∧
      Closes ts as τ (interact level σ ts)
  | [], σ, υ, hσ => by
    refine ⟨[], υ, .nil υ, ⟨by simp, by simp, .inr ⟨by simp, .inl rfl, ?_⟩, by simp [interact]⟩⟩
    simp [interact, prompt, Session.shown_eq_of_forget hσ]
  | t :: rest, σ, υ, hσ => by
    by_cases hquits : Quits t.line
    · have hturn : turn level t σ = ⟨{}, σ, some 0⟩ := if_pos (asksToQuit_iff.mpr hquits)
      refine ⟨[], υ, .nil υ, ⟨by simp, by simp, .inr ⟨by simp, .inr ⟨t, rfl, hquits⟩, ?_⟩, ?_⟩⟩
      · simp [interact, hturn, prompt, Session.shown_eq_of_forget hσ]
      · simp [interact, hturn]
    obtain ⟨a, τ, ha, hline, htold, htext, hforget, hending⟩ := exists_turn hσ hquits level
    cases h : endingOf (a.told.map Told.signal).reverse with
    | some code =>
      obtain ⟨hends, hcode⟩ := endingOf_eq_some h
      rw [h] at hending
      refine ⟨[a], τ, .cons ha hline htold (.nil τ), ⟨by simpa using hquits, by simp,
        .inl ⟨⟨a, rfl, hends⟩, ?_⟩, ?_⟩⟩
      · simp [interact, hending, htext]
      · simp [interact, hending, hcode]
    | none =>
      obtain ⟨hexit, hblue⟩ := endingOf_eq_none_iff.mp h
      rw [h] at hending
      obtain ⟨as, ρ, hdialogue, hcloses⟩ := interact_closes level rest _ τ hforget
      refine ⟨a :: as, ρ, .cons ha hline htold hdialogue, ?_⟩
      have hinteract : interact level σ (t :: rest) =
          Output.after { (turn level t σ).output with
            stdout := prompt σ ++ (turn level t σ).output.stdout }
            (interact level (turn level t σ).session rest) := by
        rw [interact]
        simp only [hending]
      rw [hinteract]
      exact hcloses.cons hquits (fun hends => hends.elim hexit hblue) htext

/-! ## The program -/

theorem exists_session (user : String) (hook : Hook) (now : Int) :
    ∃ seed, ∃ σ : Session Program, Desktop.store now = .ok seed ∧
      Session.start seed { user } now = .ok σ ∧
      session user hook now = .ok (σ.ready fun _ => hook) := by
  obtain ⟨seed, hseed, -⟩ := Desktop.exists_store now
  obtain ⟨σ, hσ, -⟩ := Session.exists_start (o := { user }) (Desktop.sound_store hseed) now
  refine ⟨seed, σ, hseed, hσ, ?_⟩
  simp only [session, hseed, hσ, bind, Except.bind]
  rfl

/-- A run of the program in its interactive mode, for all arguments that ask for it, any input and
any clock. Line after line is carried out in one session with the built-in commands on a fresh
desktop, each at the time that the clock shows when its turn comes, until a line asks to quit, a
line has told the host to end the session, or the input ends. The output holds for each line the
prompt, what the host writes on being told, and the output of the line, and one more prompt when no
line has told the host to end. The exit code is 1 if the last line has brought up the blue screen,
and 0 otherwise. -/
theorem run_shell {args : List String} {setup : Setup}
    (hargs : Invocation.parse args = .ok (.shell setup)) (input : String) (clock : Clock) :
    ∃ full rest ts seed σ as τ o, input = String.join (full.map (· ++ "\n")) ++ rest ∧
      (∀ l ∈ full, '\n' ∉ l.toList) ∧ '\n' ∉ rest.toList ∧
      ts.map Typed.line = (full ++ if rest = "" then [] else [rest]) ∧
      (∀ i t, ts[i]? = some t → t.clock = clock (i + 1)) ∧
      Desktop.store (clock 0) = .ok seed ∧
      Session.start seed { user := setup.user } (clock 0) = .ok σ ∧
      Dialogue (σ.ready fun _ => .accepts) (ts.take as.length) as τ ∧ Closes ts as τ o ∧
      ∃ call, Invocation.parse args = .ok call ∧ run call input clock = .ok o := by
  obtain ⟨full, rest, hinput, hfull, hrest, hlines⟩ := exists_inputLines input
  obtain ⟨seed, σ, hseed, hσ, hsession⟩ := exists_session setup.user .accepts (clock 0)
  obtain ⟨as, τ, hdialogue, hcloses⟩ := interact_closes setup.level
    (typed clock (inputLines input)) (σ.ready fun _ => .accepts) (σ.ready fun _ => .accepts) rfl
  refine ⟨full, rest, _, seed, σ, as, τ, _, hinput, hfull, hrest, ?_, fun i t => typed_clock, hseed,
    hσ, hdialogue, hcloses, _, hargs, ?_⟩
  · rw [typed_lines, hlines]
  · simp only [run, shell, hsession, bind, Except.bind]
    rfl

/-- A session of which the third line ends it in two ways. -/
theorem run_shell_blueScreen : Invocation.parse ["shell"] = .ok (.shell {}) ∧
    let input := "color 1; cls; date\ndate\nexit; rm -r /\npwd"
    let clock : Clock := fun i => 809078400 + 61 * i
    let stdout :=
      "C:\\Desktop>\x1b[38;2;0;0;170m\x1b[2J\x1b[HCurrent date is: 08/22/1995\n" ++
      "Current time is: 08:01:01 AM\n" ++
      "C:\\Desktop>Current date is: 08/22/1995\n" ++
      "Current time is: 08:02:02 AM\n" ++
      "C:\\Desktop>A fatal exception 0E has occurred at 0028:C0011E36 in VXD VMM(01) +\n" ++
      "00010E36. The current application will be terminated.\n" ++
      "\n" ++
      "*  Press any key to terminate the current application.\n" ++
      "*  Press CTRL+ALT+DEL again to restart your computer. You will\n" ++
      "   lose any unsaved information in all applications.\n"
    ∃ full rest ts seed σ as τ, input = String.join (full.map (· ++ "\n")) ++ rest ∧
      List.map Typed.line ts = (full ++ if rest = "" then [] else [rest]) ∧
      Desktop.store 809078400 = .ok seed ∧ Session.start seed {} 809078400 = .ok σ ∧
      Dialogue (σ.ready fun _ => .accepts) (ts.take as.length) as τ ∧
      String.join (as.map Answered.text) = stdout ∧
      (∃ a, as.getLast? = some a ∧ .blueScreen ∈ a.told) ∧
      run (.shell {}) input clock = .ok { stdout, exitCode := 1 } := by
  have hargs : Invocation.parse ["shell"] = .ok (.shell {}) := by decide +kernel
  refine ⟨hargs, ?_⟩
  intro input clock stdout
  have hrun : run (.shell {}) input clock = .ok { stdout, exitCode := 1 } := by decide +kernel
  obtain ⟨full, rest, ts, seed, σ, as, τ, o, hinput, -, -, hlines, -, hseed, hσ, hdialogue, hcloses,
    call, hcall, ho⟩ := run_shell hargs input clock
  obtain rfl := Except.ok.inj (hargs.symm.trans hcall)
  obtain rfl := Except.ok.inj (ho.symm.trans hrun)
  have hblue : ∃ a, as.getLast? = some a ∧ .blueScreen ∈ a.told := by
    by_contra hnone
    have hcode := hcloses.exitCode
    rw [if_neg hnone] at hcode
    cases hcode
  have hstdout : stdout = String.join (as.map Answered.text) := by
    obtain ⟨a, ha, hscreen⟩ := hblue
    rcases hcloses.stdout with ⟨-, hout⟩ | ⟨hopen, -⟩
    · exact hout
    · exact absurd (.inr hscreen) (hopen a ha)
  exact ⟨full, rest, ts, seed, σ, as, τ, hinput, hlines, hseed, hσ, hdialogue, hstdout.symm, hblue,
    hrun⟩

end Terminal
end DeskShell
