import ClrTypes.Proofs.Recording
import ClrTypes.Proofs.Registration
import ClrTypes.Proofs.Resolution.View

namespace ClrTypes

namespace Symbol

def MadeFrom (P : Definition → Prop) (s : Symbol) : Prop :=
  ∀ t d, IsPartOf t s → t.definition? = some d → P d

variable {P : Definition → Prop} {s : Symbol}

theorem madeFrom_iff : s.MadeFrom P ↔
    (∀ d, s.definition? = some d → P d) ∧ ∀ u ∈ s.parts, u.MadeFrom P := by
  constructor
  · intro made
    exact ⟨fun d => made s d (.refl s), fun u member t d part => made t d (part.inner member)⟩
  · rintro ⟨root, rest⟩ t d part nominal
    rcases isPartOf_iff.mp part with rfl | ⟨u, member, inner⟩
    · exact root d nominal
    · exact rest u member t d inner nominal

theorem madeFrom_named {d : Definition} (holds : P d) (n : Nat) : (named n d).MadeFrom P := by
  rw [madeFrom_iff]
  simpa [definition?, parts] using holds

theorem madeFrom_unsupported (n : Nat) (cause : Option Fault) :
    (unsupported n cause).MadeFrom P := by
  rw [madeFrom_iff]
  simp [definition?, parts]

theorem madeFrom_of_operand {u : Symbol} (made : u.MadeFrom P) (single : s.parts = [u])
    (plain : s.definition? = none) : s.MadeFrom P := by
  rw [madeFrom_iff, single, plain]
  simpa using made

theorem madeFrom_of_stripped (made : s.stripped.MadeFrom P) : s.MadeFrom P := by
  cases s with
  | illegal n s => exact madeFrom_of_operand made rfl rfl
  | _ => exact made

theorem displayArguments_eq_map (h : Hierarchy) (bindings : List (Binding Symbol)) :
    displayArguments h bindings = bindings.map fun b => b.argument.display h := by
  induction bindings with
  | nil => rfl
  | cons b bindings ih => simp [displayArguments, ih]

theorem MadeFrom.display_eq {h h' : Hierarchy} (agree : Hierarchy.AgreesOn P h h')
    (made : s.MadeFrom P) : s.display h' = s.display h := by
  induction s with
  | named n d => simp only [display, agree.fullName_eq (made _ d (.refl _) rfl)]
  | constructed n d bindings ih =>
      have arguments : displayArguments h' bindings = displayArguments h bindings := by
        rw [displayArguments_eq_map, displayArguments_eq_map]
        refine List.map_congr_left fun b member => ih b member ?_
        exact (madeFrom_iff.mp made).2 _ (List.mem_map_of_mem member)
      simp only [display, agree.fullName_eq (made _ d (.refl _) rfl), arguments]
  | parameter => rfl
  | unsupported n cause => cases cause <;> rfl
  | byRef n s ih | illegal n s ih =>
      simp only [display, ih ((madeFrom_iff.mp made).2 s List.mem_cons_self)]
  | array n s rank dimensions modifiers ih =>
      simp only [display, ih ((madeFrom_iff.mp made).2 s List.mem_cons_self)]
  | szArray n s modifiers ih | pointer n s modifiers ih =>
      simp only [display, ih ((madeFrom_iff.mp made).2 s List.mem_cons_self)]

end Symbol

namespace Build

variable {P : Definition → Prop} {s : Symbol}

theorem Formed.madeFrom {make : Nat → Symbol} {t : Symbol} (result : Formed s make t)
    (made : s.MadeFrom P) (single : ∀ n, (make n).parts = [s])
    (plain : ∀ n, (make n).definition? = none) : t.MadeFrom P := by
  cases result with
  | forwarded => exact made
  | formed n => exact Symbol.madeFrom_of_operand made (single n) (plain n)

theorem pointer_madeFrom (made : s.MadeFrom P) (modifiers : List (Modifier Symbol)) :
    Yields (Symbol.MadeFrom P) (pointer s modifiers) :=
  (pointer_yields s modifiers).mono fun _ result =>
    result.madeFrom made (fun _ => rfl) fun _ => rfl

theorem szArray_madeFrom (made : s.MadeFrom P) (modifiers : List (Modifier Symbol)) :
    Yields (Symbol.MadeFrom P) (szArray s modifiers) :=
  (szArray_yields s modifiers).mono fun _ result =>
    result.madeFrom made (fun _ => rfl) fun _ => rfl

theorem array_madeFrom (h : Hierarchy) (made : s.MadeFrom P) (rank : UInt32)
    (dimensions : List Dimension) :
    Yields (Symbol.MadeFrom P) (array h s rank dimensions []) := by
  refine (array_yields h s rank dimensions []).mono fun t result => ?_
  cases result with
  | refused n cause => exact Symbol.madeFrom_unsupported n cause
  | made _ result => exact result.madeFrom made (fun _ => rfl) fun _ => rfl

theorem byRef_madeFrom (made : s.MadeFrom P) : Yields (Symbol.MadeFrom P) (byRef s) :=
  .after fun _ => .pure (Symbol.madeFrom_of_operand made rfl rfl)

end Build

namespace Context

variable {P : Definition → Prop} {ctx ctx' : Context}

theorem instantiate_madeFrom {generic : Symbol} {arguments : List Symbol}
    (made : generic.MadeFrom P) (each : ∀ a ∈ arguments, a.MadeFrom P) (flags : List Bool) :
    Build.Yields (Symbol.MadeFrom P) (ctx.instantiate generic arguments flags) := by
  refine (ctx.instantiate_yields generic arguments flags).mono fun s result => ?_
  cases result with
  | refused n cause => exact Symbol.madeFrom_unsupported n cause
  | kept => exact made
  | @built d formals s n nominal _ _ arity _ stripped =>
      apply Symbol.madeFrom_of_stripped
      rw [stripped, Symbol.madeFrom_iff, Symbol.parts, Binding.arguments_align arity]
      refine ⟨?_, each⟩
      rintro _ ⟨⟩
      exact made _ d (.refl _) nominal

/-- For a signature, and for the definitions that `P` holds of, the two contexts are the same. -/
structure AgreesOn (P : Definition → Prop) (s : Signature) (ctx ctx' : Context) : Prop where
  hierarchy : Hierarchy.AgreesOn P ctx.hierarchy ctx'.hierarchy
  config : ctx'.config = ctx.config
  linked : ctx'.home.linked = ctx.home.linked
  gate : ctx'.interopGate = ctx.interopGate
  types : ∀ t, Signature.IsPartOf t s → ∀ token ∈ t.tokens,
    ctx'.typeOf? token = ctx.typeOf? token
  named : ∀ token d, ctx.typeOf? token = some d → P d
  special : ∀ type, Signature.IsPartOf (.element type) s → ∃ n d, P d ∧
    ctx.home.special type.special = pure (.named n d) ∧
    ctx'.home.special type.special = pure (.named n d)

variable {s : Signature}

theorem AgreesOn.formals_eq (agree : AgreesOn P s ctx ctx') {d : Definition} (holds : P d) :
    ctx'.formals d = ctx.formals d := by
  rw [formals, formals, agree.config, agree.hierarchy.formals_eq _ holds]

theorem AgreesOn.isIllegal_eq (agree : AgreesOn P s ctx ctx') {d : Definition} (holds : P d)
    (arguments : List Symbol) (flags : List Bool) :
    ctx'.isIllegal d arguments flags = ctx.isIllegal d arguments flags := by
  simp only [isIllegal, hasIllegalArgument, agree.gate, agree.linked, agree.config,
    agree.hierarchy.checkedCount_eq _ holds]

theorem AgreesOn.simulates (agree : AgreesOn P s ctx ctx') {scope : List Symbol}
    (known : ∀ a ∈ scope, a.MadeFrom P) :
    Simulates ctx ctx' scope scope (fun t => t.IsPartOf s)
      (fun a b => a.MadeFrom P ∧ a.SeenAlike (Symbol.bare true) (Symbol.bare true) b) where
  types t token part member := agree.types t part token member
  named n n' d token found :=
    ⟨Symbol.madeFrom_named (agree.named token d found) n, rfl, rfl⟩
  fault n n' cause := ⟨Symbol.madeFrom_unsupported n cause, rfl, rfl⟩
  special type part := by
    obtain ⟨n, d, holds, left, right⟩ := agree.special type part
    rw [left, right]
    exact .pure ⟨Symbol.madeFrom_named holds n, rfl, rfl⟩
  parameter i := by
    have v := Symbol.bare_isView true
    have made := resolveParameter_yields known Symbol.madeFrom_unsupported i
    exact made.relates.and (parameter_seenAlike v scope i)
  pointer _ _ ms _ same modifiers := by
    have v := Symbol.bare_isView true
    exact (Build.pointer_madeFrom same.1 ms).relates.and (pointer_seenAlike v v same.2 modifiers)
  szArray _ _ ms _ same modifiers := by
    have v := Symbol.bare_isView true
    exact (Build.szArray_madeFrom same.1 ms).relates.and (szArray_seenAlike v v same.2 modifiers)
  array a b _ rank dimensions _ same := by
    have v := Symbol.bare_isView true
    -- the message for rank 0 shows the element, and with it the names of its definitions
    have shown : a.display ctx.hierarchy = b.display ctx'.hierarchy := by
      rw [← same.1.display_eq agree.hierarchy, Symbol.display_of_unnumbered _ same.2.1]
    exact (Build.array_madeFrom ctx.hierarchy same.1 rank dimensions).relates.and
      (array_seenAlike v v same.2 (fun _ => shown) dimensions)
  byRef _ _ same := by
    have v := Symbol.bare_isView true
    exact (Build.byRef_madeFrom same.1).relates.and (byRef_seenAlike v v same.2)
  generic a b ss ts flags _ _ _ same _ each := by
    have v := Symbol.bare_isView true
    obtain ⟨made, each⟩ := (List.forall₂_and_left ss ts).mp each
    have nominal := Symbol.definition?_of_unnumbered same.2.1
    have holds (d : Definition) (named : b.definition? = some d) : P d :=
      same.1 a d (.refl a) (nominal.trans named)
    refine (instantiate_madeFrom same.1 made flags).relates.and ?_
    apply instantiate_seenAlike v v same.2 nominal each
    · intro d named
      exact (agree.formals_eq (holds d named)).symm
    · intro _ d named
      rw [isIllegal_of_seenAlike ctx d each, agree.isIllegal_eq (holds d named)]

end Context

/-- The types that the signature names by tokens are registered, and its special types are there. -/
structure Module.Covers (m : Module) (s : Signature) : Prop where
  tokens : ∀ t, Signature.IsPartOf t s → ∀ token ∈ t.tokens, token.isType = true →
    ∃ d, m.definition? token = some d
  specials : ∀ type, Signature.IsPartOf (.element type) s →
    ∃ symbol, m.special type.special = pure symbol

theorem Module.covers_iff {m : Module} {s : Signature} : m.Covers s ↔
    (∀ token ∈ s.tokens, token.isType = true → ∃ d, m.definition? token = some d) ∧
      (∀ type, .element type = s → ∃ symbol, m.special type.special = pure symbol) ∧
      ∀ u ∈ s.parts, m.Covers u := by
  constructor
  · intro covers
    refine ⟨covers.tokens s (.refl s), ?_, fun u member => ⟨?_, ?_⟩⟩
    · rintro type rfl
      exact covers.specials type (.refl _)
    · exact fun t part => covers.tokens t (part.inner member)
    · exact fun type part => covers.specials type (part.inner member)
  · rintro ⟨tokens, specials, rest⟩
    constructor
    · intro t part
      rcases Signature.isPartOf_iff.mp part with rfl | ⟨u, member, inner⟩
      · exact tokens
      · exact (rest u member).tokens t inner
    · intro type part
      rcases Signature.isPartOf_iff.mp part with same | ⟨u, member, inner⟩
      · exact specials type same
      · exact (rest u member).specials type inner

theorem Module.covers_classType {m : Module} {token : Token} {d : Definition}
    (found : m.definition? token = some d) : m.Covers (.classType token) :=
  covers_iff.mpr ⟨List.forall_mem_singleton.mpr fun _ => ⟨d, found⟩, nofun, nofun⟩

theorem Module.covers_generic {m : Module} {base : Signature} {arguments : List Signature}
    (first : m.Covers base) (rest : ∀ a ∈ arguments, m.Covers a) :
    m.Covers (.generic base arguments) :=
  covers_iff.mpr ⟨nofun, nofun, List.forall_mem_cons.mpr ⟨first, rest⟩⟩

namespace History

variable {σ : History} {assembly : Assembly} {declared : Bool} {s : Signature}

theorem run_linked (σ : History) (calls : List Registration) :
    (σ.run calls).home.linked = σ.home.linked := by
  induction calls generalizing σ with
  | nil => rfl
  | cons r calls ih =>
      refine (ih (σ.offer r)).trans ?_
      obtain ⟨-, refused⟩ | ⟨m, -, -, registered, next⟩ := σ.offer_cases r
      · rw [offer_refused refused]
      · rw [next]
        exact registered.linked

theorem Records.special_named (records : σ.Records assembly declared) {type : SpecialType}
    {symbol : Symbol} (present : σ.home.special type = pure symbol) :
    ∃ n, ∃ d ∈ σ.home.definitions, symbol = .named n d := by
  have first := records.specials type
  rw [Module.special_eq_pure_iff.mp present] at first
  generalize found : (σ.accepted.find? fun a => a.isFor type) = kept at first
  cases first with
  | some named =>
      obtain ⟨n, rfl⟩ := named
      have accepted := List.mem_of_find?_eq_some found
      exact ⟨n, _, records.mem_definitions_iff.mpr ⟨_, accepted, rfl⟩, rfl⟩

def InPlay (σ : History) (scope : List Symbol) (d : Definition) : Prop :=
  d ∈ σ.home.definitions ∨ ∃ a ∈ scope, ∃ t, Symbol.IsPartOf t a ∧ t.definition? = some d

theorem agreesOn_run (records : σ.Records assembly declared) (later : List Registration)
    {h h' : Hierarchy} (config : Config) (scope : List Symbol) (covers : σ.home.Covers s)
    (gate : (σ.run later).home.hasLocalTypes = σ.home.hasLocalTypes ∨
      config.checksInterop = false)
    (unchanged : ∀ d c, σ.InPlay scope d → h.IsInside d c → h'.container? c = h.container? c) :
    Context.AgreesOn (fun c => ∃ d, σ.InPlay scope d ∧ h.IsInside d c) s
      ⟨σ.home, h, config⟩ ⟨(σ.run later).home, h', config⟩ where
  hierarchy := Hierarchy.agreesOn_around unchanged
  config := rfl
  linked := σ.run_linked later
  gate := by
    rcases gate with same | off
    · simp only [Context.interopGate, σ.run_linked later, same]
    · simp only [Context.interopGate, off, Bool.false_and]
  types t part token member := by
    by_cases isType : token.isType = true
    · obtain ⟨d, found⟩ := covers.tokens t part token member isType
      simp only [Context.typeOf?, found, (σ.run_keeps later).definition token d found]
    · simp only [Context.typeOf?, isType, Bool.false_eq_true, if_false]
  named token d found := by
    obtain ⟨-, found⟩ := Option.ite_none_right_eq_some.mp found
    exact ⟨d, .inl (List.mem_of_find?_eq_some found), d, .refl, rfl⟩
  special type part := by
    obtain ⟨symbol, present⟩ := covers.specials type part
    obtain ⟨n, d, registered, rfl⟩ := records.special_named present
    refine ⟨n, d, ⟨d, .inl registered, d, .refl, rfl⟩, present, ?_⟩
    exact (σ.run_keeps later).special _ _ present

/-- A signature whose types a module knows resolves to the same symbol after any further
registrations, if the containers stay that are around the definitions in play, and no local type
turns up or the interop check is off. -/
theorem resolve_stable {linked : List Assembly} {calls : List Registration}
    (reached : (start assembly linked declared).run calls = σ) (later : List Registration)
    {h h' : Hierarchy} (config : Config) {scope : List Symbol} (covers : σ.home.Covers s)
    (gate : (σ.run later).home.hasLocalTypes = σ.home.hasLocalTypes ∨
      config.checksInterop = false)
    (unchanged : ∀ d c, σ.InPlay scope d → h.IsInside d c → h'.container? c = h.container? c)
    (p q : Progress) :
    Symbol.SameTree ((Context.resolve ⟨σ.home, h, config⟩ scope s).outcome p)
      ((Context.resolve ⟨(σ.run later).home, h', config⟩ scope s).outcome q) := by
  have records : σ.Records assembly declared :=
    reached ▸ (Records.start assembly linked declared).run calls
  have agree := agreesOn_run records later config scope covers gate unchanged
  have known : ∀ a ∈ scope, a.MadeFrom fun c => ∃ d, σ.InPlay scope d ∧ h.IsInside d c :=
    fun a member t d part nominal => ⟨d, .inr ⟨a, member, t, part, nominal⟩, d, .refl, rfl⟩
  have alike := (agree.simulates known).resolve (.same rfl rfl) (fun _ part => part) p q
  exact Symbol.sameTree_of_unnumbered alike.2.1

theorem resolve_view_stable :
    let h := Sample.context.hierarchy
    let h' := h.update Sample.point { h.relations Sample.point with base := some default }
    let σ := (start Sample.point.assembly [] true).run
      [⟨h, {}, Sample.point⟩, ⟨h, {}, Sample.box⟩, ⟨h, {}, Sample.view⟩]
    let later : List Registration := [⟨h', {}, Sample.shape⟩, ⟨h', {}, Sample.box⟩]
    let s : Signature := .generic (.classType Sample.view.token)
      [.parameter 0, .szArray (.classType Sample.point.token) []]
    let scope : List Symbol := [.named 7 Sample.shape]
    Symbol.SameTree ((Context.resolve ⟨σ.home, h, {}⟩ scope s).outcome {})
      ((Context.resolve ⟨(σ.run later).home, h', {}⟩ scope s).outcome { next := 9 }) := by
  intro h h' σ later s scope
  have point : σ.home.Covers (.classType Sample.point.token) := Module.covers_classType rfl
  have view : σ.home.Covers (.classType Sample.view.token) := Module.covers_classType rfl
  have parameter : σ.home.Covers (.parameter 0) := Module.covers_iff.mpr ⟨nofun, nofun, nofun⟩
  have points : σ.home.Covers (.szArray (.classType Sample.point.token) []) :=
    Module.covers_iff.mpr ⟨nofun, nofun, List.forall_mem_singleton.mpr point⟩
  have covers : σ.home.Covers s := Module.covers_generic view (by simp [parameter, points])
  apply resolve_stable rfl later {} covers (.inl rfl)
  intro d c _ _
  have links := h.container?_update Sample.point ({ · with base := some default }) c
  refine links.trans ?_
  split <;> rfl

/-- The containers of the registered definitions alone are not enough. `View` lies in `Box`, which
is not registered, and then `Box` is put into another generic type; or `View` itself is not
registered, occurs in the scope, and is put into `Box`. -/
theorem resolve_view_unstable :
    let free : Hierarchy := .empty
    let nested := Sample.context.hierarchy
    let deeper := nested.update Sample.box { container := some Sample.lens }
    let σ := (start Sample.point.assembly [] false).run
      [⟨nested, {}, Sample.point⟩, ⟨nested, {}, Sample.view⟩]
    let τ := (start Sample.point.assembly [] false).run [⟨free, {}, Sample.point⟩]
    let later : List Registration := [⟨deeper, {}, Sample.box⟩]
    let point : Signature := .classType Sample.point.token
    let s : Signature := .generic (.classType Sample.view.token) [point, point]
    let t : Signature := .generic (.parameter 0) [point]
    let scope : List Symbol := [.named 7 Sample.view]
    (σ.home.Covers s ∧ (σ.run later).home.hasLocalTypes = σ.home.hasLocalTypes ∧
      (∀ d ∈ σ.home.definitions, deeper.container? d = nested.container? d) ∧
      ((Context.resolve ⟨σ.home, nested, {}⟩ [] s).outcome {} ==
        (Context.resolve ⟨(σ.run later).home, deeper, {}⟩ [] s).outcome {}) = false) ∧
    (τ.home.Covers t ∧ (τ.run later).home.hasLocalTypes = τ.home.hasLocalTypes ∧
      (∀ d ∈ τ.home.definitions, nested.container? d = free.container? d) ∧
      ((Context.resolve ⟨τ.home, free, {}⟩ scope t).outcome {} ==
        (Context.resolve ⟨(τ.run later).home, nested, {}⟩ scope t).outcome {}) = false) := by
  intro free nested deeper σ τ later point s t scope
  have view : σ.home.Covers (.classType Sample.view.token) := Module.covers_classType rfl
  have known : σ.home.Covers point := Module.covers_classType rfl
  have known' : τ.home.Covers point := Module.covers_classType rfl
  have parameter : τ.home.Covers (.parameter 0) := Module.covers_iff.mpr ⟨nofun, nofun, nofun⟩
  have covers : σ.home.Covers s := Module.covers_generic view (by simp [known])
  have covers' : τ.home.Covers t := Module.covers_generic parameter (by simp [known'])
  refine ⟨⟨covers, rfl, ?_, by decide⟩, covers', rfl, ?_, by decide⟩
  · exact List.forall_mem_cons.mpr ⟨rfl, List.forall_mem_singleton.mpr rfl⟩
  · exact List.forall_mem_singleton.mpr rfl

end History

end ClrTypes
