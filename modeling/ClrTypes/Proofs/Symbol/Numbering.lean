import ClrTypes.Build
import ClrTypes.Proofs.Symbol.Parts

namespace ClrTypes.Symbol

def IsNodeOf (t : Symbol) (roots : List Symbol) : Prop :=
  ∃ r ∈ roots, t.IsPartOf r

variable {s t r : Symbol} {roots others : List Symbol} {p : Progress}

theorem isNodeOf_of_mem (member : s ∈ roots) : s.IsNodeOf roots :=
  ⟨s, member, .refl s⟩

theorem IsNodeOf.part (node : s.IsNodeOf roots) (part : t.IsPartOf s) : t.IsNodeOf roots := by
  obtain ⟨r, member, inner⟩ := node
  exact ⟨r, member, Relation.ReflTransGen.trans part inner⟩

theorem IsNodeOf.inner (node : s.IsNodeOf roots) (member : t ∈ s.parts) : t.IsNodeOf roots :=
  node.part (IsPartOf.inner (.refl t) member)

theorem IsNodeOf.mono (node : s.IsNodeOf roots) (known : ∀ r ∈ roots, r.IsNodeOf others) :
    s.IsNodeOf others := by
  obtain ⟨r, member, part⟩ := node
  exact (known r member).part part

theorem IsNodeOf.of_subset (node : s.IsNodeOf roots) (within : roots ⊆ others) :
    s.IsNodeOf others :=
  node.mono fun _ member => isNodeOf_of_mem (within member)

/-- A number belongs to one node, and the next number to none. -/
structure Numbered (roots : List Symbol) (p : Progress) : Prop where
  used : ∀ t : Symbol, t.IsNodeOf roots → t.serial < p.next
  single : ∀ t u : Symbol, t.IsNodeOf roots → u.IsNodeOf roots → t.serial = u.serial → t = u

theorem Numbered.mono (numbered : Numbered roots p) (known : ∀ r ∈ others, r.IsNodeOf roots) :
    Numbered others p where
  used t node := numbered.used t (node.mono known)
  single t u node node' := numbered.single t u (node.mono known) (node'.mono known)

theorem Numbered.of_subset (numbered : Numbered roots p) (within : others ⊆ roots) :
    Numbered others p :=
  numbered.mono fun _ member => isNodeOf_of_mem (within member)

theorem Numbered.none (p : Progress) : Numbered [] p :=
  ⟨by simp [IsNodeOf], by simp [IsNodeOf]⟩

theorem Numbered.cons (numbered : Numbered roots p) (node : s.IsNodeOf roots) :
    Numbered (s :: roots) p :=
  numbered.mono (List.forall_mem_cons.mpr ⟨node, fun _ => isNodeOf_of_mem⟩)

theorem Numbered.grow (numbered : Numbered roots p) (parts : ∀ u ∈ s.parts, u.IsNodeOf roots)
    (next : s.serial = p.next) : Numbered (s :: roots) { p with next := p.next + 1 } := by
  have cases {t : Symbol} (node : t.IsNodeOf (s :: roots)) : t = s ∨ t.IsNodeOf roots := by
    obtain ⟨r, member, part⟩ := node
    rcases List.mem_cons.mp member with rfl | member
    · rcases isPartOf_iff.mp part with same | ⟨u, member, inner⟩
      · exact .inl same
      · exact .inr ((parts u member).part inner)
    · exact .inr ⟨r, member, part⟩
  constructor
  · intro t node
    rcases cases node with rfl | old
    · exact next ▸ Nat.lt_succ_self _
    · exact Nat.lt_succ_of_lt (numbered.used t old)
  · intro t u node node' same
    rcases cases node with rfl | old <;> rcases cases node' with rfl | old'
    · rfl
    · have before := numbered.used u old'
      omega
    · have before := numbered.used t old
      omega
    · exact numbered.single t u old old' same

end ClrTypes.Symbol
