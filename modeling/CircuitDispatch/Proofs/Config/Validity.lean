import CircuitDispatch.Config.File
import CircuitDispatch.Proofs.Sequencing

/-!
# What loading a configuration checks

A configuration that is loaded from a file, or from a file and the environment, is valid: the check
comes last on these ways. A configuration that is made of the environment alone is not checked. It
is valid exactly if the variables for the device and for the two limits are in order where they have
texts (`Environment.InOrder`), and loading without a file is this with the check (`loaders_valid`).

How the environment changes a configuration is told value by value (`Config.Overridden`), so that a
value is looked at without the others.
-/

namespace CircuitDispatch

/-! ### The environment -/

namespace Environment

variable {α : Type} {env : Environment} {name : String} {read : String → Option α} {unset value : α}

/-- A variable without a text leaves the value, and any other must be read. -/
theorem parsed_eq_ok_iff : env.parsed name read unset = .ok value ↔
    (env.text? name = none ∧ value = unset) ∨ ∃ text, env.text? name = some text ∧
      read (Text.trim text) = some value := by
  rw [parsed]
  cases env.text? name with
  | none => simp [eq_comm]
  | some text => cases hread : read (Text.trim text) <;> simp [hread]

/-- A value that passes a test passes it after the environment as well, exactly if the text of the
variable does where there is one. -/
theorem parsed_passes_iff {p : α → Prop} (h : env.parsed name read unset = .ok value)
    (hunset : p unset) :
    p value ↔ ∀ text ∈ env.text? name, ∀ v, read (Text.trim text) = some v → p v := by
  rcases parsed_eq_ok_iff.mp h with ⟨hnone, rfl⟩ | ⟨text, hsome, hread⟩
  · simp [hnone, hunset]
  · simp [hsome, hread]

/-- Variables that name a device and leave room, where they have texts. -/
structure InOrder (env : Environment) : Prop where
  device : ∀ text ∈ env.text? "VERBATIM_DEVICE", Text.isBlankText text = false
  maxShots : ∀ text ∈ env.text? "VERBATIM_MAX_SHOTS", natOfText? (Text.trim text) ≠ some 0
  maxCircuitLength : ∀ text ∈ env.text? "VERBATIM_MAX_CIRCUIT_LENGTH",
    natOfText? (Text.trim text) ≠ some 0

end Environment

namespace Config

variable {env : Environment} {c c' : Config}

/-- Which configuration an environment makes of another one, value by value. -/
structure Overridden (env : Environment) (c c' : Config) : Prop where
  device : c'.device = (env.text? "VERBATIM_DEVICE").getD c.device
  verbatimMode : env.parsed "VERBATIM_VERBATIM_MODE" boolOfText? c.verbatimMode
    = .ok c'.verbatimMode
  batchMode : env.parsed "VERBATIM_BATCH_MODE" boolOfText? c.batchMode = .ok c'.batchMode
  allowHardware : env.parsed "VERBATIM_ALLOW_HARDWARE" boolOfText? c.allowHardware
    = .ok c'.allowHardware
  maxShots : env.parsed "VERBATIM_MAX_SHOTS" natOfText? c.maxShots = .ok c'.maxShots
  maxCircuitLength : env.parsed "VERBATIM_MAX_CIRCUIT_LENGTH" natOfText? c.maxCircuitLength
    = .ok c'.maxCircuitLength
  family : env.familyChoice c.family = .ok c'.family

/-- **The environment** changes every value by itself. -/
theorem withEnvironment_eq_ok_iff : c.withEnvironment env = .ok c' ↔ Overridden env c c' := by
  unfold withEnvironment
  simp only [bind_eq_ok_iff, pure_eq_ok_iff]
  constructor
  · rintro ⟨verbatim, hverbatim, batch, hbatch, hardware, hhardware, shots, hshots, length, hlength,
      family, hfamily, rfl⟩
    exact ⟨rfl, hverbatim, hbatch, hhardware, hshots, hlength, hfamily⟩
  · rintro ⟨hdevice, hverbatim, hbatch, hhardware, hshots, hlength, hfamily⟩
    refine ⟨_, hverbatim, _, hbatch, _, hhardware, _, hshots, _, hlength, _, hfamily, ?_⟩
    rw [← hdevice]

/-! ### The check -/

/-- A configuration that names a device and leaves room. -/
structure Valid (c : Config) : Prop where
  device : Text.isBlankText c.device = false
  maxShots : 0 < c.maxShots
  maxCircuitLength : 0 < c.maxCircuitLength

/-- **The check** finds out whether a configuration is valid. -/
theorem validate_eq_ok_iff : c.validate = .ok () ↔ c.Valid := by
  unfold validate
  by_cases hdevice : Text.isBlankText c.device = true
  · rw [if_pos hdevice]
    exact iff_of_false nofun fun h => absurd hdevice (by simp [h.device])
  by_cases hshots : c.maxShots = 0
  · rw [if_neg hdevice, if_pos hshots]
    exact iff_of_false nofun fun h => absurd hshots (Nat.ne_of_gt h.maxShots)
  by_cases hlength : c.maxCircuitLength = 0
  · rw [if_neg hdevice, if_neg hshots, if_pos hlength]
    exact iff_of_false nofun fun h => absurd hlength (Nat.ne_of_gt h.maxCircuitLength)
  rw [if_neg hdevice, if_neg hshots, if_neg hlength]
  exact iff_of_true rfl
    ⟨Bool.eq_false_iff.mpr hdevice, Nat.pos_of_ne_zero hshots, Nat.pos_of_ne_zero hlength⟩

theorem valid_standard : standard.Valid := validate_eq_ok_iff.mp rfl

/-- A valid configuration stays valid exactly if the texts of the variables are in order. -/
theorem Overridden.valid_iff (h : Overridden env c c') (hc : c.Valid) : c'.Valid ↔ env.InOrder := by
  have hdevice : Text.isBlankText c'.device = false ↔
      ∀ text ∈ env.text? "VERBATIM_DEVICE", Text.isBlankText text = false := by
    rw [h.device]
    cases env.text? "VERBATIM_DEVICE" with
    | none => simp [hc.device]
    | some text => simp
  have hshots := Environment.parsed_passes_iff (p := (0 < ·)) h.maxShots hc.maxShots
  have hlength := Environment.parsed_passes_iff (p := (0 < ·)) h.maxCircuitLength
    hc.maxCircuitLength
  have hroom : ∀ o : Option Nat, (∀ n, o = some n → 0 < n) ↔ o ≠ some 0 := by
    intro o
    cases o with
    | none => simp
    | some n => simp [Nat.pos_iff_ne_zero]
  simp only [hroom] at hshots hlength
  exact ⟨fun hvalid => ⟨hdevice.mp hvalid.device, hshots.mp hvalid.maxShots,
      hlength.mp hvalid.maxCircuitLength⟩,
    fun horder => ⟨hdevice.mpr horder.device, hshots.mpr horder.maxShots,
      hlength.mpr horder.maxCircuitLength⟩⟩

/-! ### Loading -/

/-- A configuration that is checked before it is handed on. -/
theorem validated_eq_ok_iff : (do c.validate; return c) = Except.ok c' ↔
    c = c' ∧ c'.validate = .ok () := by
  rw [bind_eq_ok_iff]
  constructor
  · rintro ⟨_, hvalid, ⟨rfl⟩⟩
    exact ⟨rfl, hvalid⟩
  · rintro ⟨rfl, hvalid⟩
    exact ⟨(), hvalid, rfl⟩

/-- **A file** must hold a text that writes a configuration, which is checked. -/
theorem ofFile_eq_ok_iff {file : FileContent} : ofFile file = .ok c ↔
    ∃ content text, file = .bytes content ∧ String.fromUTF8? content = some text ∧
      ofYaml? text = some c ∧ c.validate = .ok () := by
  unfold ofFile
  cases file with
  | missing => exact iff_of_false nofun nofun
  | bytes content =>
    cases htext : String.fromUTF8? content with
    | none => simp [htext]
    | some text =>
      cases hread : ofYaml? text with
      | none => simp [htext, hread]
      | some config =>
        simp only [htext, hread]
        rw [validated_eq_ok_iff]
        constructor
        · rintro ⟨rfl, hvalid⟩
          exact ⟨content, text, rfl, htext, hread, hvalid⟩
        · rintro ⟨_, text', ⟨rfl⟩, htext', hread', hvalid⟩
          obtain rfl := Option.some.inj (htext.symm.trans htext')
          exact ⟨Option.some.inj (hread.symm.trans hread'), hvalid⟩

/-- **Loading** takes the file, if there is one, then the environment, and checks what comes of
both. -/
theorem load_eq_ok_iff {file : Option FileContent} : load file env = .ok c ↔
    ∃ base, file.elim (.ok standard) ofFile = .ok base ∧ base.withEnvironment env = .ok c ∧
      c.validate = .ok () := by
  have hload : load file env = (file.elim (.ok standard) ofFile >>= fun base =>
      base.withEnvironment env >>= fun config => do config.validate; return config) := by
    cases file with
    | none => rfl
    | some file => rfl
  rw [hload, bind_eq_ok_iff]
  refine exists_congr fun base => and_congr_right fun _ => ?_
  rw [bind_eq_ok_iff]
  constructor
  · rintro ⟨config, hconfig, hvalid⟩
    obtain ⟨rfl, hvalid⟩ := validated_eq_ok_iff.mp hvalid
    exact ⟨hconfig, hvalid⟩
  · rintro ⟨hconfig, hvalid⟩
    exact ⟨c, hconfig, validated_eq_ok_iff.mpr ⟨rfl, hvalid⟩⟩

/-- **What is loaded is valid**, if a file was asked for or the environment was merged into a
configuration that is checked. A configuration of the environment alone may be anything that the
variables say: it is valid exactly if these are in order, and only then loading without a file gives
the same. -/
theorem loaders_valid (file : FileContent) (given : Option FileContent) (env : Environment)
    (c : Config) :
    (ofFile file = .ok c → c.validate = .ok ()) ∧
      (load given env = .ok c → c.validate = .ok ()) ∧
      (ofEnvironment env = .ok c → (c.validate = .ok () ↔ env.InOrder)) ∧
      (load none env = .ok c ↔ ofEnvironment env = .ok c ∧ env.InOrder) := by
  have hvalid : ofEnvironment env = .ok c → (c.validate = .ok () ↔ env.InOrder) := fun h =>
    validate_eq_ok_iff.trans ((withEnvironment_eq_ok_iff.mp h).valid_iff valid_standard)
  refine ⟨fun h => ?_, fun h => ?_, hvalid, ?_⟩
  · obtain ⟨-, -, -, -, -, hchecked⟩ := ofFile_eq_ok_iff.mp h
    exact hchecked
  · obtain ⟨-, -, -, hchecked⟩ := load_eq_ok_iff.mp h
    exact hchecked
  · rw [load_eq_ok_iff]
    constructor
    · rintro ⟨_, ⟨rfl⟩, hconfig, hchecked⟩
      exact ⟨hconfig, (hvalid hconfig).mp hchecked⟩
    · rintro ⟨hconfig, horder⟩
      exact ⟨standard, rfl, hconfig, (hvalid hconfig).mpr horder⟩

/-- A file that names a device, and an environment that grants more shots. -/
theorem loaders_valid_moreShots :
    let file : FileContent := .bytes "device: garnet\nmax_shots: 3\n".toUTF8
    let env : Environment := fun name => if name = "VERBATIM_MAX_SHOTS" then some " 7 " else none
    let read : Config := { standard with device := "garnet", maxShots := 3 }
    let both : Config := { read with maxShots := 7 }
    let alone : Config := { standard with maxShots := 7 }
    (ofFile file = .ok read ∧ read.validate = .ok ()) ∧
      (load (some file) env = .ok both ∧ both.validate = .ok ()) ∧
      ofEnvironment env = .ok alone ∧ env.InOrder ∧ load none env = .ok alone := by
  intro file env read both alone
  have hread : ofFile file = .ok read := by decide +kernel
  have hboth : load (some file) env = .ok both := by decide +kernel
  have halone : ofEnvironment env = .ok alone := by decide +kernel
  obtain ⟨hfile, -, -, -⟩ := loaders_valid file none env read
  obtain ⟨-, hload, -, -⟩ := loaders_valid file (some file) env both
  obtain ⟨-, -, hvalid, hnone⟩ := loaders_valid file none env alone
  have horder : env.InOrder := (hvalid halone).mp (by decide)
  exact ⟨⟨hread, hfile hread⟩, ⟨hboth, hload hboth⟩, halone, horder, hnone.mpr ⟨halone, horder⟩⟩

/-- **The environment alone is not checked.** A device without a name is taken over from it. -/
theorem ofEnvironment_unchecked :
    ¬ ((∀ file c, ofFile file = .ok c → c.validate = .ok ()) ∧
      (∀ env c, ofEnvironment env = .ok c → c.validate = .ok ()) ∧
      ∀ file env c, load file env = .ok c → c.validate = .ok ()) := by
  rintro ⟨-, h, -⟩
  let env : Environment := fun name => if name = "VERBATIM_DEVICE" then some "" else none
  have hmade : ofEnvironment env = .ok { standard with device := "" } := rfl
  have hrefused : ({ standard with device := "" } : Config).validate
      = .error (.invalid "device must not be empty") := rfl
  have hvalid := h env _ hmade
  rw [hrefused] at hvalid
  cases hvalid

end Config

end CircuitDispatch
