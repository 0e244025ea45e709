import MeshFirmware.Proofs.Execution.Exclusion
import MeshFirmware.Proofs.Updater.Installation

/-!
# A broken configuration

A file that holds no configuration either stops the program or stands for the configuration in which nothing is set.
In that one the switch is off, and there are no branches, so that not even a forced call gets as far as a run: its
settings cannot be made, whatever branch and whatever mirrors the command line gives (`broken_config_fails_closed`).
-/

namespace MeshFirmware

/-- A file that cannot be read, is not UTF-8, or holds a text that is no configuration. -/
inductive Config.Broken : FileRead → Prop
  | unread (e : OsError) : Broken (.error e)
  | notText {bytes : Bytes} (h : bytes.text? = none) : Broken (.ok bytes)
  | invalid {bytes : Bytes} {text : String} (htext : bytes.text? = some text) (h : parse? text = none) :
    Broken (.ok bytes)

/-- Only a file that is missing, and a text that is no configuration, stand for the default. -/
theorem Config.Broken.load_cases {r : FileRead} (h : Broken r) :
    (load r = none ∧ r ≠ .error .notFound ∧ r.text? = none) ∨
    (load r = some .default ∧ (r = .error .notFound ∨ r.text?.isSome)) := by
  cases h with
  | unread e =>
    cases e with
    | notFound => exact .inr ⟨rfl, .inl rfl⟩
    | _ => exact .inl ⟨rfl, nofun, rfl⟩
  | notText h =>
    refine .inl ⟨?_, nofun, h⟩
    rw [load, h]
    rfl
  | invalid htext h =>
    refine .inr ⟨?_, .inr (Option.isSome_iff_exists.mpr ⟨_, htext⟩)⟩
    rw [load, htext, Option.map_some, h]
    rfl

namespace Execution
variable {c : Call}

/-- Without branches there are no settings. -/
theorem Call.not_ready_of_default (h : c.config = .default) (t : Updater.Task) : ¬ c.Ready t := by
  intro hready
  obtain ⟨release, -, hbuild⟩ := hready.set
  rw [h] at hbuild
  cases hbuild

theorem Call.wanted_of_default (h : c.config = .default) : c.wanted = c.args.force := by
  rw [wanted, h]
  rfl

/-- An execution without settings does nothing, and ends well only if it was not to do anything. -/
theorem Ending.of_not_ready {r : Except Failure (Option Updater.Outcome)} {deeds : List Deed} (h : Ending c r deeds)
    (hready : ∀ t, ¬ c.Ready t) : deeds = [] ∧ ((∃ o, r = .ok o) ↔ c.wanted = false) := by
  cases h with
  | idle hunwanted => exact ⟨rfl, fun _ => hunwanted, fun _ => ⟨none, rfl⟩⟩
  | failed ready _ => exact absurd ready (hready _)
  | recorded ready _ => exact absurd ready (hready _)
  | _ hwanted => exact ⟨rfl, by simp [hwanted]⟩

/-- With a file that holds no configuration the program has none or the default, and no call with the default does
anything that can be seen. It ends well if it is not forced, and it fails otherwise. -/
theorem broken_config_fails_closed {r : FileRead} (h : Config.Broken r) :
    (Config.load r = none ∨ Config.load r = some .default) ∧
    ∀ (c : Call) (lockPath : String) (d : Disk), Config.load r = some c.config →
      (c.execute lockPath d).deeds = [] ∧ ((∃ o, (c.execute lockPath d).result = .ok o) ↔ c.args.force = false) := by
  have hload : Config.load r = none ∨ Config.load r = some .default := h.load_cases.imp And.left And.left
  refine ⟨hload, fun c lockPath d hc => ?_⟩
  have hdefault : c.config = .default := by
    rw [hc] at hload
    rcases hload with hnone | hsome
    · cases hnone
    · exact Option.some.inj hsome
  rw [← Call.wanted_of_default hdefault]
  exact (ending_execute c lockPath d).of_not_ready (Call.not_ready_of_default hdefault)

/-- A call that is forced, with a branch and a mirror on the command line, in a world where the mirror has an image. -/
def forcedCall : Call where
  world := Updater.smallWorld
  fortune := Updater.smallFortune
  config := .default
  args := { branch := some "stable", force := true, mirrors := ["http://[fd00::1]/"] }
  node := { model := some "tiny", release := .ok "1" }
  imagePath := "/tmp/firmware.bin"
  place := .absent

/-- A text that breaks off, and a forced call. -/
theorem broken_config_fails_forced_call :
    let r : FileRead := .ok (Bytes.ofText "enabled = [")
    Config.Broken r ∧ Config.load r = some forcedCall.config ∧ (forcedCall.execute "/lock" .empty).deeds = [] ∧
      ¬ ∃ o, (forcedCall.execute "/lock" .empty).result = .ok o := by
  intro r
  have htext : (Bytes.ofText "enabled = [").text? = some "enabled = [" := by decide +kernel
  have hparse : Config.parse? "enabled = [" = none := by decide +kernel
  have hbroken : Config.Broken r := .invalid htext hparse
  have hload : Config.load r = some forcedCall.config := by
    rw [Config.load, htext, Option.map_some, hparse]
    rfl
  obtain ⟨hdeeds, hok⟩ := (broken_config_fails_closed hbroken).2 forcedCall "/lock" .empty hload
  exact ⟨hbroken, hload, hdeeds, fun hwell => absurd (hok.mp hwell) (by decide)⟩

end Execution

end MeshFirmware
