import PatchScript.Grammar.Program

/-!
# Script libraries

Programs that other programs can import by name.
-/

namespace PatchScript

/-- Script libraries by name. -/
abbrev ScriptLibraries := OrderedMap Program

/-- Read a library and add it; it replaces one of the same name. -/
def ScriptLibraries.load (libraries : ScriptLibraries)
    (name source : String) : Except SourceError ScriptLibraries :=
  (Program.ofSource source name).map fun program => libraries.insert name program

end PatchScript
