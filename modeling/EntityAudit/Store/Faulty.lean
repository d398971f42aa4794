import EntityAudit.Store.Basic

/-!
# `EntityAudit.Store.Faulty` — a store that refuses some calls

A store in front of another one.  For each name a policy may say at which moment calls fail; such a call
does not reach the store behind, all others do.

## Contents

* `Stage`, `Fault` — a failure and its moment
* `store` — the store with a policy
* `Refusal`, `refusals` — a policy given by rules
-/

namespace EntityAudit.Faulty

/-- The moments at which a store may fail. -/
inductive Stage where
  | opening
  | writing
  | flushing
deriving DecidableEq, Repr

/-- A failure at one of the moments. -/
structure Fault where
  stage : Stage
  error : IoError
deriving DecidableEq, Repr

variable {σ κ : Type}

/-- The sink of a store in front of another, with the failure that its name incurs. -/
abbrev Sink (κ : Type) := Option Fault × κ

/-- The failure of a call at a moment. -/
def failing (stage : Stage) : Option Fault → Option IoError
  | none => none
  | some fault => if fault.stage = stage then some fault.error else none

/-- Answers a call by the store behind. -/
def forward (fault : Option Fault) (r : Reply (κ × σ) Unit) : Reply (Sink κ × σ) Unit :=
  ⟨r.result, ((fault, r.state.1), r.state.2), r.events⟩

/-- A store in front of `behind`, which fails as the policy says.  Writing nothing is no call. -/
def store (policy : String → Option Fault) (behind : Store σ κ) : Store σ (Sink κ) where
  openSink name s :=
    match failing .opening (policy name) with
    | some e => ⟨.error e, s, []⟩
    | none =>
      let r := behind.openSink name s
      ⟨r.result.map (fun k => (policy name, k)), r.state, r.events⟩
  write bytes k :=
    match failing .writing k.1.1 with
    | some e => if bytes.isEmpty then ⟨.ok (), k, []⟩ else ⟨.error e, k, []⟩
    | none => forward k.1.1 (behind.write bytes (k.1.2, k.2))
  flush k :=
    match failing .flushing k.1.1 with
    | some e => ⟨.error e, k, []⟩
    | none => forward k.1.1 (behind.flush (k.1.2, k.2))
  release k := behind.release (k.1.2, k.2)

/-! ## Rules -/

/-- A rule: names that contain a text incur a failure. -/
structure Refusal where
  contains : String
  fault : Fault

/-- Whether a text occurs in another. -/
def occursIn (part : List Char) : List Char → Bool
  | [] => part.isEmpty
  | c :: rest => part.isPrefixOf (c :: rest) || occursIn part rest

/-- The policy of a list of rules: the first one that applies decides. -/
def refusals (rules : List Refusal) (name : String) : Option Fault :=
  (rules.find? (fun r => occursIn r.contains.toList name.toList)).map Refusal.fault

end EntityAudit.Faulty
