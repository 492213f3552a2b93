import ClrTypes.Enumeration
import ClrTypes.Proofs.Recording

/-!
# Facts that are recorded once

The container, the base type and the type that stores an enum have a slot each, which takes one value
and keeps it. The slot of the container holds a link to a definition that may be dropped. It stays
filled then and accepts no other container, although the definition has none any more.
-/

namespace ClrTypes

inductive Fact where
  | container (c : Definition)
  | base (s : Symbol)
  | underlying (s : Symbol)
  | interface (s : Symbol)

def Fact.write : Fact → Relations → Relations
  | .container c, r => { r with container := some c }
  | .base s, r => { r with base := some s }
  | .underlying s, r => { r with underlying := some s }
  | .interface s, r => { r with interfaces := r.interfaces ++ [s] }

inductive Slot where
  | container
  | base
  | underlying

namespace Slot

abbrev Value : Slot → Type
  | .container => Definition
  | .base | .underlying => Symbol

def read : (slot : Slot) → Relations → Option slot.Value
  | .container, r => r.container
  | .base, r => r.base
  | .underlying, r => r.underlying

/-- What is recorded in the slot of a definition. For the container this is not what the definition
answers: the container may be gone. -/
def held? (slot : Slot) (h : Hierarchy) (d : Definition) : Option slot.Value :=
  slot.read (h.relations d)

def operand? : (slot : Slot) → Fact → Option slot.Value
  | .container, .container c => some c
  | .base, .base s => some s
  | .underlying, .underlying s => some s
  | _, _ => none

theorem held?_congr (slot : Slot) {h : Hierarchy} {d e : Definition}
    (same : e.serial = d.serial) : slot.held? h e = slot.held? h d := by
  rw [held?, held?, Hierarchy.relations, Hierarchy.relations, same]

theorem read_write (slot : Slot) (fact : Fact) (r : Relations) :
    slot.read (fact.write r) = (slot.operand? fact).or (slot.read r) := by
  cases slot <;> cases fact <;> rfl

theorem operand?_underlying {fact : Fact} {s : Symbol}
    (goes : underlying.operand? fact = some s) : fact = .underlying s := by
  cases fact with
  | underlying t => exact congrArg Fact.underlying (Option.some.inj goes)
  | _ => cases goes

end Slot

def Symbol.IsStorage (s : Symbol) : Prop :=
  (∃ n cause, s = .unsupported n cause) ∨
    ∃ d special, s.definition? = some d ∧ d.special = some special ∧ special.isIntegral = true

theorem Symbol.storesEnum_iff {s : Symbol} : s.storesEnum = true ↔ s.IsStorage := by
  have fault : s.isUnsupported = true ↔ ∃ n cause, s = .unsupported n cause := by
    cases s <;> simp [isUnsupported]
  rw [storesEnum, Bool.or_eq_true, fault, IsStorage]
  simp only [special?, Option.any_eq_true, Option.bind_eq_some_iff]
  grind

structure Recording where
  definition : Definition
  fact : Fact

namespace Recording

variable {h h' : Hierarchy} {call : Recording}

def attempt (h : Hierarchy) (call : Recording) : Except Fault Hierarchy :=
  match call.fact with
  | .container c => h.setContainer call.definition c
  | .base s => h.setBase call.definition s
  | .underlying s => h.setUnderlying call.definition s
  | .interface s => .ok (h.addInterface call.definition s).2

/-- The slot is filled, or the operand is none for it. -/
def IsRefused (h : Hierarchy) (call : Recording) : Prop :=
  match call.fact with
  | .container _ => Slot.container.held? h call.definition ≠ none
  | .base _ => Slot.base.held? h call.definition ≠ none
  | .underlying s => ¬ s.IsStorage ∨ Slot.underlying.held? h call.definition ≠ none
  | .interface _ => False

theorem attempt_eq_error_iff : (∃ fault, call.attempt h = .error fault) ↔ call.IsRefused h := by
  obtain ⟨d, fact⟩ := call
  cases fact with
  | container c =>
      simp only [attempt, IsRefused, Hierarchy.setContainer, Slot.held?, Slot.read]
      cases (h.relations d).container <;> simp
  | base s =>
      simp only [attempt, IsRefused, Hierarchy.setBase, Hierarchy.base?, Slot.held?, Slot.read]
      cases (h.relations d).base <;> simp
  | underlying s =>
      simp only [attempt, IsRefused, Hierarchy.setUnderlying, Hierarchy.underlying?, Slot.held?,
        Slot.read, ← Symbol.storesEnum_iff]
      cases s.storesEnum <;> cases (h.relations d).underlying <;> simp
  | interface s => simp [attempt, IsRefused]

theorem not_isRefused (accepted : call.attempt h = .ok h') : ¬ call.IsRefused h := by
  rw [← attempt_eq_error_iff, accepted]
  simp

theorem eq_of_accepted (accepted : call.attempt h = .ok h') :
    h' = h.update call.definition (call.fact.write (h.relations call.definition)) := by
  obtain ⟨d, fact⟩ := call
  cases fact with
  | container c => exact (Hierarchy.of_setContainer accepted).2
  | base s => exact Hierarchy.eq_of_setBase accepted
  | underlying s =>
      simp only [attempt, Hierarchy.setUnderlying] at accepted
      split at accepted
      · split at accepted
        · cases accepted
        · exact (Except.ok.inj accepted).symm
      · cases accepted
  | interface s => exact (Except.ok.inj accepted).symm

theorem held?_of_accepted (accepted : call.attempt h = .ok h') (slot : Slot) (e : Definition) :
    slot.held? h' e =
      if e.serial = call.definition.serial then (slot.operand? call.fact).or (slot.held? h e)
      else slot.held? h e := by
  rw [eq_of_accepted accepted, Slot.held?, Hierarchy.relations_update, apply_ite slot.read,
    slot.read_write]
  rfl

theorem gone_of_accepted (accepted : call.attempt h = .ok h') : h'.gone = h.gone := by
  rw [eq_of_accepted accepted]
  rfl

theorem isRefused_of_filled {slot : Slot} {v : slot.Value} (goes : slot.operand? call.fact = some v)
    (filled : slot.held? h call.definition ≠ none) : call.IsRefused h := by
  obtain ⟨d, fact⟩ := call
  cases slot with
  | container =>
      cases fact with
      | container c => exact filled
      | _ => cases goes
  | base =>
      cases fact with
      | base s => exact filled
      | _ => cases goes
  | underlying =>
      cases fact with
      | underlying s => exact .inr filled
      | _ => cases goes

theorem held?_eq_none_of_accepted (accepted : call.attempt h = .ok h') {slot : Slot}
    {v : slot.Value} (goes : slot.operand? call.fact = some v) {e : Definition}
    (same : e.serial = call.definition.serial) : slot.held? h e = none := by
  rw [slot.held?_congr same]
  apply Classical.byContradiction
  intro filled
  exact not_isRefused accepted (isRefused_of_filled goes filled)

theorem isStorage_of_accepted {s : Symbol} (accepted : call.attempt h = .ok h')
    (goes : call.fact = .underlying s) : s.IsStorage := by
  have admitted := not_isRefused accepted
  rw [IsRefused, goes, not_or] at admitted
  exact Classical.not_not.mp admitted.1

end Recording

structure Ledger where
  hierarchy : Hierarchy
  accepted : List Recording
  dropped : List Definition

namespace Ledger

inductive Event where
  | call (call : Recording)
  | drop (d : Definition)

variable {σ : Ledger}

def empty : Ledger := ⟨.empty, [], []⟩

def offer (σ : Ledger) (call : Recording) : Ledger :=
  match call.attempt σ.hierarchy with
  | .ok h => { σ with hierarchy := h, accepted := σ.accepted ++ [call] }
  | .error _ => σ

def step (σ : Ledger) : Event → Ledger
  | .call call => σ.offer call
  | .drop d => { σ with hierarchy := σ.hierarchy.drop d, dropped := d :: σ.dropped }

def run (σ : Ledger) (events : List Event) : Ledger :=
  events.foldl step σ

/-- The operand of the first call that was accepted for a slot of a definition. -/
def first? (σ : Ledger) (slot : Slot) (d : Definition) : Option slot.Value :=
  σ.accepted.findSome? fun call =>
    if d.serial = call.definition.serial then slot.operand? call.fact else none

theorem offer_cases (σ : Ledger) (call : Recording) :
    call.IsRefused σ.hierarchy ∧ σ.offer call = σ ∨
      ∃ h, call.attempt σ.hierarchy = .ok h ∧
        σ.offer call = { σ with hierarchy := h, accepted := σ.accepted ++ [call] } := by
  cases result : call.attempt σ.hierarchy with
  | error fault =>
      exact .inl ⟨Recording.attempt_eq_error_iff.mp ⟨fault, result⟩, by rw [offer, result]⟩
  | ok h => exact .inr ⟨h, rfl, by rw [offer, result]⟩

theorem accepted_step (σ : Ledger) (event : Event) :
    ∃ more, (σ.step event).accepted = σ.accepted ++ more := by
  cases event with
  | call call =>
      obtain ⟨-, next⟩ | ⟨h, -, next⟩ := σ.offer_cases call
      · exact ⟨[], by simp [step, next]⟩
      · exact ⟨[call], by simp [step, next]⟩
  | drop d => exact ⟨[], by simp [step]⟩

theorem accepted_run (σ : Ledger) (events : List Event) :
    ∃ more, (σ.run events).accepted = σ.accepted ++ more := by
  induction events generalizing σ with
  | nil => exact ⟨[], by simp [run]⟩
  | cons event events ih =>
      obtain ⟨first, next⟩ := σ.accepted_step event
      obtain ⟨rest, further⟩ := ih (σ.step event)
      exact ⟨first ++ rest, further.trans (by rw [next, List.append_assoc])⟩

theorem first?_of_append {τ : Ledger} {more : List Recording}
    (accepted : τ.accepted = σ.accepted ++ more) (slot : Slot) (d : Definition) :
    τ.first? slot d = (σ.first? slot d).or (more.findSome? fun call =>
      if d.serial = call.definition.serial then slot.operand? call.fact else none) := by
  rw [first?, accepted, List.findSome?_append]
  rfl

theorem first?_run (events : List Event) {slot : Slot} {d : Definition} {v : slot.Value}
    (first : σ.first? slot d = some v) : (σ.run events).first? slot d = some v := by
  obtain ⟨more, accepted⟩ := σ.accepted_run events
  rw [first?_of_append accepted, first, Option.some_or]

structure IsSound (σ : Ledger) : Prop where
  holds : ∀ slot d, slot.held? σ.hierarchy d = σ.first? slot d
  gone : σ.hierarchy.gone = σ.dropped.map (·.serial)
  storage : ∀ call ∈ σ.accepted, ∀ s, call.fact = .underlying s → s.IsStorage

theorem empty_isSound : empty.IsSound :=
  ⟨fun slot _ => by cases slot <;> rfl, rfl, by simp [empty]⟩

theorem IsSound.offer (sound : σ.IsSound) (call : Recording) : (σ.offer call).IsSound := by
  obtain ⟨-, next⟩ | ⟨h, accepted, next⟩ := σ.offer_cases call
  · rw [next]
    exact sound
  have longer : (σ.offer call).accepted = σ.accepted ++ [call] := by rw [next]
  refine ⟨fun slot d => ?_, ?_, fun other member s goes => ?_⟩
  · rw [first?_of_append longer, List.findSome?_singleton, ← sound.holds, next,
      Recording.held?_of_accepted accepted]
    split
    · rename_i same
      cases goes : slot.operand? call.fact with
      | none => simp
      -- the call was accepted for this slot, so that the slot was empty and the call is the first
      | some v => simp [Recording.held?_eq_none_of_accepted accepted goes same]
    · simp
  · rw [next, ← sound.gone]
    exact Recording.gone_of_accepted accepted
  · rw [longer] at member
    rcases List.mem_append.mp member with old | new
    · exact sound.storage other old s goes
    · obtain rfl := List.mem_singleton.mp new
      exact Recording.isStorage_of_accepted accepted goes

theorem IsSound.step (sound : σ.IsSound) (event : Event) : (σ.step event).IsSound := by
  cases event with
  | call call => exact sound.offer call
  | drop d => exact ⟨sound.holds, congrArg (d.serial :: ·) sound.gone, sound.storage⟩

theorem IsSound.run (sound : σ.IsSound) (events : List Event) : (σ.run events).IsSound := by
  induction events generalizing σ with
  | nil => exact sound
  | cons event events ih => exact ih (sound.step event)

theorem IsSound.container?_eq (sound : σ.IsSound) (d : Definition) :
    σ.hierarchy.container? d =
      (σ.first? .container d).filter fun c => ∀ e ∈ σ.dropped, e.serial ≠ c.serial := by
  ext c
  rw [Hierarchy.container?_eq_some_iff, Option.filter_eq_some_iff, sound.gone]
  have held : (σ.hierarchy.relations d).container = σ.first? .container d :=
    sound.holds .container d
  simp [held]

theorem IsSound.isRefused_of_dropped (sound : σ.IsSound) {d c : Definition}
    (first : σ.first? .container d = some c) (dropped : c ∈ σ.dropped) :
    σ.hierarchy.container? d = none ∧
      ∀ k, Recording.IsRefused σ.hierarchy ⟨d, .container k⟩ := by
  constructor
  · rw [sound.container?_eq, first, Option.filter_eq_none_iff]
    intro c' same lasting
    obtain rfl := Option.some.inj same
    exact of_decide_eq_true lasting c dropped rfl
  · intro k
    have held : Slot.container.held? σ.hierarchy d = some c :=
      (sound.holds .container d).trans first
    simp [Recording.IsRefused, held]

theorem IsSound.isStorage (sound : σ.IsSound) {s u : Symbol}
    (found : σ.hierarchy.underlyingOf? s = some u) : u.IsStorage := by
  obtain ⟨d, -, recorded⟩ := Option.bind_eq_some_iff.mp found
  have first : σ.first? .underlying d = some u := (sound.holds .underlying d).symm.trans recorded
  obtain ⟨call, member, goes⟩ := List.exists_of_findSome?_eq_some first
  obtain ⟨-, goes⟩ := Option.ite_none_right_eq_some.mp goes
  exact sound.storage call member u (Slot.operand?_underlying goes)

/-- Every slot holds the operand of the first call that was accepted for it, and goes on to hold it.
A call fails exactly if its slot is filled or the operand is none for it, and then it changes
nothing. A definition answers what its slots hold, except for a container that was dropped: then it
answers none, and still takes no other. Whatever symbol is asked, an enum is stored in an integral
type or in a symbol for a fault. -/
structure IsWrittenOnce (σ : Ledger) : Prop where
  holds : ∀ slot d, slot.held? σ.hierarchy d = σ.first? slot d
  keeps : ∀ (slot : Slot) d v later, slot.held? σ.hierarchy d = some v →
    slot.held? (σ.run later).hierarchy d = some v
  fails : ∀ call : Recording,
    (∃ fault, call.attempt σ.hierarchy = .error fault) ↔ call.IsRefused σ.hierarchy
  unchanged : ∀ call : Recording, call.IsRefused σ.hierarchy → σ.offer call = σ
  container : ∀ d, σ.hierarchy.container? d =
    (σ.first? .container d).filter fun c => ∀ e ∈ σ.dropped, e.serial ≠ c.serial
  lapses : ∀ d c, σ.first? .container d = some c → c ∈ σ.dropped →
    σ.hierarchy.container? d = none ∧ ∀ k, Recording.IsRefused σ.hierarchy ⟨d, .container k⟩
  base : ∀ d, σ.hierarchy.base? d = σ.first? .base d
  underlying : ∀ d, σ.hierarchy.underlying? d = σ.first? .underlying d
  storage : ∀ s u, σ.hierarchy.underlyingOf? s = some u → u.IsStorage

theorem run_isWrittenOnce (events : List Event) : (empty.run events).IsWrittenOnce := by
  have sound := empty_isSound.run events
  constructor
  case holds => exact sound.holds
  case keeps =>
    intro slot d v later held
    rw [(sound.run later).holds]
    exact first?_run later ((sound.holds slot d).symm.trans held)
  case fails => exact fun _ => Recording.attempt_eq_error_iff
  case unchanged =>
    intro call refused
    obtain ⟨fault, result⟩ := Recording.attempt_eq_error_iff.mpr refused
    rw [offer, result]
  case container => exact sound.container?_eq
  case lapses => exact fun _ _ => sound.isRefused_of_dropped
  case base => exact sound.holds .base
  case underlying => exact sound.holds .underlying
  case storage => exact fun _ _ => sound.isStorage

end Ledger

end ClrTypes
