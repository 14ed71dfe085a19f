import DeskShell.Shell.Session

/-!
# Resolving paths

From a typed path to an entry and the path to display for it, starting from the working folder.
Nothing here changes the session.

* `Session.resolve`: the entry that a path names.
* `Session.resolveParent`: the folder and the name of an entry that need not exist yet.
-/
namespace DeskShell.Session

variable {C : Type}

/-- Along relative segments from the entry `id`, displayed as `parts`. A step up from the top stays
there; a step up from an entry with a parent needs a part to give up. -/
def followShown (s : Store) (id : String) (parts : List String) :
    List String → Except Fault (Option Place)
  | [] => .ok (some ⟨id, Path.display parts⟩)
  | part :: rest =>
    if part = "." then followShown s id parts rest
    else if part = ".." then
      match s.parent? id with
      | none => followShown s id parts rest
      | some p =>
        if parts.isEmpty then .error .pathExhausted
        else followShown s p.id parts.dropLast rest
    else
      match s.childNamed id part with
      | none => .ok none
      | some child => followShown s child.id (parts ++ [child.name]) rest

/-- The entry at an absolute path, shown by its full path. -/
def resolveAbsolute (s : Store) (path : String) : Except Fault (Option Place) :=
  match s.find path with
  | .error f => .error f
  | .ok none => .ok none
  | .ok (some n) =>
    match s.path n.id with
    | .error f => .error f
    | .ok shown => .ok (some ⟨n.id, shown⟩)

/-- The entry that `path` names. No path, or an empty one, names the working folder. -/
def resolve (σ : Session C) (path : Option String) : Except Fault (Option Place) :=
  match path with
  | none => .ok (some ⟨σ.folder, σ.shown⟩)
  | some path =>
    if path = "" then .ok (some ⟨σ.folder, σ.shown⟩)
    else
      let target := Path.normalize path
      if Path.isAbsolute target then resolveAbsolute σ.store target
      else followShown σ.store σ.folder (Text.pieces Path.sep σ.shown) (Path.segments target)

/-- The id of the folder part of a path, `none` when it leads nowhere, and the last name. -/
def resolveParent (σ : Session C) (path : String) : Except Fault (Option String × String) :=
  match Path.splitParent path with
  | (none, name) => .ok (some σ.folder, name)
  | (some folder, name) =>
    match σ.resolve (some folder) with
    | .error f => .error f
    | .ok place => .ok (place.map (·.id), name)

/-- The stored entry that a path names. -/
def resolveNode (σ : Session C) (path : Option String) : Except Fault (Option (Place × Option Node)) :=
  match σ.resolve path with
  | .error f => .error f
  | .ok none => .ok none
  | .ok (some place) => .ok (some (place, σ.store.get? place.id))

end DeskShell.Session
