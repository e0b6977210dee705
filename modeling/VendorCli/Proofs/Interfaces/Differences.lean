import VendorCli.Proofs.Template.Commands
import VendorCli.Units
/-!
# The commands of a change, field by field

Two platforms write the same changes by different means: IOS by a template, VRP by a list of lines.
`commands_tell_differences` says that they agree up to the word that negates a line, and what the
lines are. There is one for each field that is not as before: with the new value if there is one,
and with the word that negates it if there is none any more. The admin state has a line also where
there was no record before.

The lines of a setting are defined by cases of both values; `settingLines_eq` needs only the one
question whether they differ.
-/

namespace VendorCli.Interfaces

open Text Template

/-- A setting needs a line exactly if it is not as before. -/
theorem settingLines_eq {α : Type} [DecidableEq α] (old new : Option α) (set : α → Text)
    (removal : Text) :
    settingLines old new set removal = if new = old then [] else [new.elim removal set] := by
  cases new with
  | none => cases old <;> simp [settingLines]
  | some a => simp [settingLines, eq_comm]

/-- **Differences.** For every record, and every record before it or none, the template of IOS is
rendered without failure, and its commands are those of the list of lines that VRP is configured by,
with `no` in the place of `undo`. This list names the interface and has a line for each field that
differs. -/
theorem commands_tell_differences (before : Option Interface) (after : Interface) :
    Units.iosStyle.commands before after
      = .ok (commandLines (unlines (directCommands "no" before after))) ∧
    Units.vrpStyle.commands before after = .ok (directCommands "undo" before after) ∧
    ∀ no : Text, directCommands no before after
      = ["interface " ++ after.name]
        ++ (if after.description = before.bind Interface.description then []
            else [after.description.elim (no ++ " description") ("description " ++ ·)])
        ++ (if after.mtu = before.bind Interface.mtu then []
            else [after.mtu.elim (no ++ " mtu") fun n => "mtu " ++ Decimal.digitsOf n.toNat])
        ++ (if before.map Interface.enabled = some after.enabled then []
            else [if after.enabled then no ++ " shutdown" else "shutdown"]) := by
  refine ⟨?_, rfl, ?_⟩
  · -- the template is known to have the commands of each line, and joining them adds none
    have htemplate : Units.iosStyle.commands = templateCommands := by rw [Units.iosStyle]
    rw [htemplate, templateCommands_eq, commandLines_unlines]
  · intro no
    unfold directCommands earlier
    rw [settingLines_eq, settingLines_eq]
    cases after.enabled <;> rfl

/-- A description that is taken away, a new size and an admin state that stays. -/
example :
    let before := { Interface.named "Gi0/1" with description := some "uplink", mtu := some 1500 }
    directCommands "no" (some before) { Interface.named "Gi0/1" with mtu := some 9000 }
      = ["interface Gi0/1", "no description", "mtu 9000"] := by
  decide +kernel

end VendorCli.Interfaces
