import DeskShell.Shell.Session

/-!
# Registries

A registry lists commands by name with further names and a description. Names have no case.

* `Entry.make`: an entry as it is listed; `Entry.names` are all its names.
* `Session.registerAs`: enters a command under every name of an entry.
-/
namespace DeskShell

structure Entry where
  name : String
  aliases : List String
  description : String
  deriving Repr, DecidableEq

namespace Entry

def make (name : String) (aliases : List String) (description : String) : Entry :=
  ⟨Text.lower name, aliases.map Text.lower, description⟩

def names (e : Entry) : List String := e.name :: e.aliases

end Entry

namespace Session

variable {C : Type}

def registerAs (σ : Session C) (e : Entry) (command : C) : Session C :=
  e.names.foldl (fun τ name => τ.register name command e.description) σ

end Session
end DeskShell
