import StagedBuild.Script.Builtin.Arguments
import StagedBuild.Script.Rights

/-!
# Rights of new files

The mask of rights that new files do not get.
-/

namespace StagedBuild.Script.Builtin

open Process

/-- Shows or changes the rights that new files do not get. -/
def umask : Body := fun args => do
  let (found, args) ← options ['S'] [] args
  let mask ← (Act.view (·.actor.mask) : Act Nat)
  let rights := Rights.all ^^^ mask
  match args with
  | [] =>
    if found.isEmpty then
      say (String.ofList ('0' :: [64, 8, 1].map fun place => Nat.digitChar (mask / place % 8)) ++
        "\n")
    else
      say (",".intercalate (Rights.classes.map fun (letter, place) =>
        letter.toString ++ "=" ++ Rights.text (rights / place % 8)) ++ "\n")
  | text :: _ =>
    if (text.toList.head?.any Char.isDigit) then
      match Rights.octal? text.toList with
      | some mask => Act.change (·.setActor fun process => { process with mask := mask % 512 })
      | none => Run.fail ("Illegal number: " ++ text)
    else
      match Rights.changed? rights text with
      | some rights =>
        Act.change (·.setActor fun process => { process with mask := Rights.all ^^^ rights })
      | none => Run.fail ("Illegal mode: " ++ text)
    return 0

end StagedBuild.Script.Builtin
