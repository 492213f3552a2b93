import ClrTypes.Module
import ClrTypes.Proofs.Building

namespace ClrTypes.Module

def isSystemType (d : Definition) : Bool :=
  d.space == "System" && d.name == "Type"

/-- The second module is the first one with a definition registered. Of the symbols for special types
and for `System.Type`, those that are kept already stay. -/
structure Registered (m : Module) (h : Hierarchy) (d : Definition) (m' : Module) : Prop where
  assembly : m'.assembly = m.assembly
  linked : m'.linked = m.linked
  definitions : m'.definitions = m.definitions ++ [d]
  names : m'.names = m.names ++ [(h.fullName d, d)]
  hasLocalTypes : m'.hasLocalTypes = (m.hasLocalTypes || m.declaresLocal d)
  specials : ∃ n, ∀ s, m'.specials.lookup s =
    (m.specials.lookup s).or (if d.special = some s then some (.named n d) else none)
  typeSymbol : ∃ n, m'.typeSymbol =
    m.typeSymbol.or (if isSystemType d then some (.named n d) else none)

variable {m m' : Module} {h : Hierarchy} {d : Definition}

theorem recordSpecial_yields (m : Module) (d : Definition) :
    Build.Yields (fun m' => ∃ specials n, m' = { m with specials } ∧ ∀ s, specials.lookup s =
        (m.specials.lookup s).or (if d.special = some s then some (.named n d) else none))
      (m.recordSpecial d) := by
  unfold recordSpecial
  cases d.special with
  | none => exact .pure ⟨m.specials, 0, rfl, by simp⟩
  | some special =>
      by_cases known : (m.specials.lookup special).isSome = true
      · simp only [known, if_true]
        refine .pure ⟨m.specials, 0, rfl, fun s => ?_⟩
        by_cases same : special = s
        · obtain ⟨symbol, found⟩ := Option.isSome_iff_exists.mp (same ▸ known)
          rw [found, Option.some_or]
        · simp [same]
      · simp only [known, Bool.false_eq_true, if_false]
        refine (Build.named_yields d).bind ?_
        rintro _ ⟨n, rfl⟩
        refine .pure ⟨_, n, rfl, fun s => ?_⟩
        rw [List.lookup_append]
        by_cases same : special = s
        · simp [same]
        · have differs : (s == special) = false := by simpa using fun equal => same equal.symm
          simp [List.lookup_cons, differs, same]

theorem recordTypeSymbol_yields (m : Module) (d : Definition) :
    Build.Yields (fun m' => ∃ typeSymbol n, m' = { m with typeSymbol } ∧ typeSymbol =
        m.typeSymbol.or (if isSystemType d then some (.named n d) else none))
      (m.recordTypeSymbol d) := by
  unfold recordTypeSymbol
  by_cases first : (d.space == "System" && d.name == "Type" && m.typeSymbol.isNone) = true
  · rw [if_pos first]
    obtain ⟨role, unknown⟩ := Bool.and_eq_true_iff.mp first
    rw [Option.isNone_iff_eq_none] at unknown
    refine (Build.named_yields d).bind ?_
    rintro _ ⟨n, rfl⟩
    exact .pure ⟨_, n, rfl, by simp [isSystemType, role, unknown]⟩
  · rw [if_neg first]
    refine .pure ⟨m.typeSymbol, 0, rfl, ?_⟩
    cases known : m.typeSymbol with
    | some symbol => rfl
    | none => simpa [isSystemType, known] using first

theorem register_refused {e : Definition} (known : m.definition? d.token = some e) :
    m.register h d = pure (.error (.malformed (.duplicateDefinition d.token))) := by
  simp only [register, known]

theorem register_accepted (unknown : m.definition? d.token = none) :
    Build.Yields (fun result => ∃ m', result = .ok m' ∧ m.Registered h d m') (m.register h d) := by
  simp only [register, unknown]
  refine (recordSpecial_yields _ d).bind ?_
  rintro _ ⟨specials, n, rfl, special⟩
  refine (recordTypeSymbol_yields _ d).bind ?_
  rintro _ ⟨typeSymbol, n', rfl, role⟩
  exact .pure ⟨_, rfl, rfl, rfl, rfl, rfl, rfl, ⟨n, special⟩, ⟨n', role⟩⟩

inductive IsLoaded : Module → Prop
  | empty (assembly : Assembly) : IsLoaded (.ofAssembly assembly)
  | link {m : Module} (assembly : Assembly) : IsLoaded m → IsLoaded (m.link assembly)
  | withLocalTypes {m : Module} : IsLoaded m → IsLoaded m.withLocalTypes
  | register {m m' : Module} (h : Hierarchy) (d : Definition) (p : Progress) :
      IsLoaded m → (m.register h d).outcome p = .ok m' → IsLoaded m'

def IsPlain (s : Symbol) : Prop :=
  ∃ n d, s = .named n d

structure KeepsPlain (m : Module) : Prop where
  special : ∀ type symbol, m.specials.lookup type = some symbol → IsPlain symbol
  typeSymbol : ∀ symbol, m.typeSymbol = some symbol → IsPlain symbol

theorem isPlain_of_or {known : Option Symbol} {role : Prop} [Decidable role] {n : Nat}
    {symbol : Symbol} (plain : ∀ s, known = some s → IsPlain s)
    (found : known.or (if role then some (.named n d) else none) = some symbol) :
    IsPlain symbol := by
  rcases Option.or_eq_some_iff.mp found with old | ⟨-, new⟩
  · exact plain symbol old
  · obtain ⟨-, same⟩ := Option.ite_none_right_eq_some.mp new
    exact ⟨n, d, (Option.some.inj same).symm⟩

theorem KeepsPlain.registered (keeps : m.KeepsPlain) (result : m.Registered h d m') :
    m'.KeepsPlain := by
  obtain ⟨n, specials⟩ := result.specials
  obtain ⟨n', typeSymbol⟩ := result.typeSymbol
  constructor
  · intro type symbol found
    exact isPlain_of_or (keeps.special type) ((specials type).symm.trans found)
  · intro symbol found
    exact isPlain_of_or keeps.typeSymbol (typeSymbol.symm.trans found)

theorem IsLoaded.keepsPlain (loaded : m.IsLoaded) : m.KeepsPlain := by
  induction loaded with
  | empty => exact ⟨by simp [ofAssembly], by simp [ofAssembly]⟩
  | link assembly _ keeps =>
      unfold Module.link
      split
      · exact keeps
      · exact ⟨keeps.special, keeps.typeSymbol⟩
  | withLocalTypes _ keeps => exact ⟨keeps.special, keeps.typeSymbol⟩
  | @register m m' h d p _ result keeps =>
      cases known : m.definition? d.token with
      | some e =>
          rw [register_refused known] at result
          cases result
      | none =>
          obtain ⟨m'', same, registered⟩ := register_accepted (h := h) known p
          obtain rfl := Except.ok.inj (result.symm.trans same)
          exact keeps.registered registered

theorem special_relates (loaded : m.IsLoaded) (s : SpecialType) :
    Build.Relates Symbol.SameRoot (m.special s) (m.special s) := by
  unfold special
  cases found : m.specials.lookup s with
  | none => exact Build.unsupported_relates _
  | some symbol =>
      obtain ⟨n, d, rfl⟩ := loaded.keepsPlain.special s symbol found
      exact .pure (.inl ⟨n, n, d, rfl, rfl⟩)

theorem systemType_relates (loaded : m.IsLoaded) :
    Build.Relates Symbol.SameRoot m.systemType m.systemType := by
  unfold systemType
  cases kept : m.typeSymbol with
  | none => exact Build.unsupported_relates _
  | some symbol =>
      obtain ⟨n, d, rfl⟩ := loaded.keepsPlain.typeSymbol symbol kept
      exact .pure (.inl ⟨n, n, d, rfl, rfl⟩)

end ClrTypes.Module
