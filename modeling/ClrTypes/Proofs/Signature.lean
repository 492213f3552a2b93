import ClrTypes.Signature
import Mathlib.Logic.Basic
import Mathlib.Logic.Relation

namespace ClrTypes.Signature

def isNominal : Signature → Bool
  | .classType _ | .valueType _ => true
  | _ => false

def token? : Signature → Option Token
  | .classType token | .valueType token => some token
  | _ => none

def tokens : Signature → List Token
  | .classType token | .valueType token => [token]
  | .pointer _ modifiers | .szArray _ modifiers => modifiers.map (·.token)
  | .element _ | .parameter _ | .array _ _ _ | .byRef _ | .generic _ _ | .invalid _ => []

def operands : Signature → List Signature
  | .pointer s _ | .szArray s _ | .array s _ _ | .byRef s => [s]
  | .generic _ arguments => arguments
  | .element _ | .classType _ | .valueType _ | .parameter _ | .invalid _ => []

def parts : Signature → List Signature
  | .generic base arguments => base :: arguments
  | s => s.operands

def IsPartOf (t s : Signature) : Prop :=
  Relation.ReflTransGen (fun u v => u ∈ v.parts) t s

/-- Is `t` the signature `s` or reached from it without going into the base of a generic type? -/
def IsOperandOf (t s : Signature) : Prop :=
  Relation.ReflTransGen (fun u v => u ∈ v.operands) t s

@[elab_as_elim]
theorem parts_induction {motive : Signature → Prop}
    (made : ∀ s : Signature, (∀ u ∈ s.parts, motive u) → motive s) (s : Signature) : motive s :=
  Signature.rec (motive_1 := motive) (motive_2 := fun ss => ∀ s ∈ ss, motive s)
    (fun _ => made _ (by simp [parts, operands])) (fun _ => made _ (by simp [parts, operands]))
    (fun _ => made _ (by simp [parts, operands])) (fun _ => made _ (by simp [parts, operands]))
    (fun _ _ inner => made _ (by simpa [parts, operands] using inner))
    (fun _ _ inner => made _ (by simpa [parts, operands] using inner))
    (fun _ _ _ inner => made _ (by simpa [parts, operands] using inner))
    (fun _ inner => made _ (by simpa [parts, operands] using inner))
    (fun _ _ base arguments => made _ (by simpa [parts] using ⟨base, arguments⟩))
    (fun _ => made _ (by simp [parts, operands]))
    (by simp) (fun _ _ first rest => by simpa using ⟨first, rest⟩) s

theorem IsPartOf.refl (s : Signature) : s.IsPartOf s :=
  Relation.ReflTransGen.refl

theorem IsPartOf.inner {t u s : Signature} (part : t.IsPartOf u) (member : u ∈ s.parts) :
    t.IsPartOf s :=
  Relation.ReflTransGen.tail part member

theorem isPartOf_iff {t s : Signature} : t.IsPartOf s ↔ t = s ∨ ∃ u ∈ s.parts, t.IsPartOf u := by
  rw [IsPartOf, Relation.ReflTransGen.cases_tail_iff, eq_comm]
  simp only [IsPartOf, and_comm]

theorem IsPartOf.eq_of_leaf {t s : Signature} (part : t.IsPartOf s) (leaf : s.parts = []) :
    t = s := by
  rcases isPartOf_iff.mp part with same | ⟨u, member, -⟩
  · exact same
  · simp [leaf] at member

theorem isOperandOf_iff {t s : Signature} :
    t.IsOperandOf s ↔ t = s ∨ ∃ u ∈ s.operands, t.IsOperandOf u := by
  rw [IsOperandOf, Relation.ReflTransGen.cases_tail_iff, eq_comm]
  simp only [IsOperandOf, and_comm]

theorem IsOperandOf.isPartOf {t s : Signature} (operand : t.IsOperandOf s) : t.IsPartOf s := by
  refine Relation.ReflTransGen.mono ?_ _ _ operand
  intro u v member
  cases v <;> simp_all [operands, parts]

mutual

def height : Signature → Nat
  | .element _ | .classType _ | .valueType _ | .parameter _ | .invalid _ => 1
  | .pointer s _ | .szArray s _ | .array s _ _ | .byRef s => height s + 1
  | .generic base arguments => max (height base) (heights arguments) + 1

def heights : List Signature → Nat
  | [] => 0
  | s :: rest => max (height s) (heights rest)

end

theorem height_pos (s : Signature) : 0 < s.height := by
  cases s <;> simp [height]

theorem height_le_heights {s : Signature} {ss : List Signature} (member : s ∈ ss) :
    s.height ≤ heights ss := by
  induction ss with
  | nil => simp at member
  | cons t ss ih =>
      rw [heights]
      rcases List.mem_cons.mp member with rfl | member
      · exact Nat.le_max_left _ _
      · exact Nat.le_trans (ih member) (Nat.le_max_right _ _)

theorem height_lt_of_mem_parts {t s : Signature} (member : t ∈ s.parts) : t.height < s.height := by
  cases s with
  | generic base arguments =>
      rw [height, Nat.lt_succ_iff]
      rcases List.mem_cons.mp member with rfl | member
      · exact Nat.le_max_left _ _
      · exact Nat.le_trans (height_le_heights member) (Nat.le_max_right _ _)
  | _ => simp_all [parts, operands, height]

mutual

def hasNominalBases : Signature → Bool
  | .generic base arguments => base.isNominal && haveNominalBases arguments
  | .pointer s _ | .szArray s _ | .array s _ _ | .byRef s => hasNominalBases s
  | .element _ | .classType _ | .valueType _ | .parameter _ | .invalid _ => true

def haveNominalBases : List Signature → Bool
  | [] => true
  | s :: rest => hasNominalBases s && haveNominalBases rest

end

theorem haveNominalBases_iff {ss : List Signature} :
    haveNominalBases ss = true ↔ ∀ s ∈ ss, s.hasNominalBases = true := by
  induction ss with
  | nil => simp [haveNominalBases]
  | cons s ss ih => simp [haveNominalBases, ih]

theorem hasNominalBases_of_mem_parts {t s : Signature} (bases : s.hasNominalBases = true)
    (member : t ∈ s.parts) : t.hasNominalBases = true := by
  cases s with
  | generic base arguments =>
      rw [hasNominalBases, Bool.and_eq_true, haveNominalBases_iff] at bases
      rcases List.mem_cons.mp member with rfl | member
      · cases t <;> simp_all [isNominal, hasNominalBases]
      · exact bases.2 t member
  | _ => simp_all [parts, operands, hasNominalBases]

theorem isNominal_of_hasNominalBases {s base : Signature} {arguments : List Signature}
    (bases : s.hasNominalBases = true) (part : IsPartOf (.generic base arguments) s) :
    base.isNominal = true := by
  induction part with
  | refl =>
      rw [hasNominalBases, Bool.and_eq_true] at bases
      exact bases.1
  | tail _ member ih => exact ih (hasNominalBases_of_mem_parts bases member)

def mapParts (f : Signature → Signature) : Signature → Signature
  | .pointer s modifiers => .pointer (f s) modifiers
  | .szArray s modifiers => .szArray (f s) modifiers
  | .array s rank dimensions => .array (f s) rank dimensions
  | .byRef s => .byRef (f s)
  | .generic base arguments => .generic (f base) (arguments.map f)
  | s => s

/-- The signature with every part that stands `room` levels down replaced by a fault. -/
def truncate (fault : Fault) : (room : Nat) → Signature → Signature
  | 0, _ => .invalid fault
  | room + 1, s => s.mapParts (truncate fault room)

theorem mapParts_eq_self {f : Signature → Signature} {s : Signature}
    (fixed : ∀ u ∈ s.parts, f u = u) : s.mapParts f = s := by
  cases s with
  | generic base arguments =>
      have rest : arguments.map f = arguments.map id :=
        List.map_congr_left fun a member => fixed a (List.mem_cons_of_mem _ member)
      rw [mapParts, fixed base List.mem_cons_self, rest, List.map_id]
  | _ => simp_all [mapParts, parts, operands]

end ClrTypes.Signature
