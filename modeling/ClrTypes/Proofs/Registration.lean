import ClrTypes.Proofs.Loading

namespace ClrTypes

structure Registration where
  hierarchy : Hierarchy
  progress : Progress
  definition : Definition

namespace Registration

def token (r : Registration) : Token :=
  r.definition.token

def fullName (r : Registration) : String :=
  r.hierarchy.fullName r.definition

def isFor (r : Registration) (s : SpecialType) : Bool :=
  r.definition.special == some s

def IsNamedBy (r : Registration) (s : Symbol) : Prop :=
  ∃ n, s = .named n r.definition

end Registration

namespace Module

def initial (assembly : Assembly) (linked : List Assembly) (declared : Bool) : Module :=
  let m := linked.foldl link (ofAssembly assembly)
  if declared then m.withLocalTypes else m

def attempt (m : Module) (r : Registration) : Except Fault Module :=
  (m.register r.hierarchy r.definition).outcome r.progress

/-- What the first module finds, the second one finds too: the same definitions and the very same
symbols. -/
structure Keeps (m m' : Module) : Prop where
  definition : ∀ t d, m.definition? t = some d → m'.definition? t = some d
  special : ∀ type symbol, m.special type = pure symbol → m'.special type = pure symbol
  systemType : ∀ symbol, m.systemType = pure symbol → m'.systemType = pure symbol

end Module

/-- The step gives the one symbol that is kept for a registration, and if there is no registration, a
new symbol that says what is missing. -/
def Build.FindsSymbol (first : Option Registration) (missing : Fault) (step : Build Symbol) : Prop :=
  match first with
  | some r => ∃ n, step = pure (.named n r.definition)
  | none => step = unsupported (some missing)

structure History where
  home : Module
  accepted : List Registration

namespace History

def start (assembly : Assembly) (linked : List Assembly) (declared : Bool) : History :=
  ⟨.initial assembly linked declared, []⟩

def offer (σ : History) (r : Registration) : History :=
  match σ.home.attempt r with
  | .ok m => ⟨m, σ.accepted ++ [r]⟩
  | .error _ => σ

def run (σ : History) (calls : List Registration) : History :=
  calls.foldl offer σ

/-- The answers of the module, in terms of the registrations that it has accepted. -/
structure IsDetermined (σ : History) (assembly : Assembly) (declared : Bool) : Prop where
  accepts : ∀ r, (∃ m, σ.home.attempt r = .ok m) ↔ ∀ a ∈ σ.accepted, a.token ≠ r.token
  refuses : ∀ r, (∃ a ∈ σ.accepted, a.token = r.token) →
    σ.home.register r.hierarchy r.definition =
        pure (.error (.malformed (.duplicateDefinition r.token))) ∧
      σ.offer r = σ
  size : σ.home.size = σ.accepted.length
  definition : ∀ t,
    σ.home.definition? t = (σ.accepted.find? fun a => a.token == t).map (·.definition)
  distinct : (σ.accepted.map (·.token)).Nodup
  special : ∀ s, Build.FindsSymbol (σ.accepted.find? fun a => a.isFor s) (.specialTypeMissing s)
    (σ.home.special s)
  systemType : Build.FindsSymbol (σ.accepted.find? fun a => Module.isSystemType a.definition)
    (.typeError ("System.Type is not available in " ++ assembly.name)) σ.home.systemType
  named : ∀ fullName, σ.home.named fullName =
    (σ.accepted.filter fun a => a.fullName == fullName).map (·.definition)
  hasLocalTypes : σ.home.hasLocalTypes =
    (declared || σ.accepted.any fun a => a.definition.isLocal && a.definition.assembly == assembly)

end History

namespace Module

variable {m m' m'' : Module} {h : Hierarchy} {d : Definition}

theorem foldl_link (linked : List Assembly) (m : Module) :
    ∃ others, linked.foldl link m = { m with linked := others } := by
  induction linked generalizing m with
  | nil => exact ⟨m.linked, rfl⟩
  | cons assembly linked ih =>
      obtain ⟨others, rest⟩ := ih (m.link assembly)
      refine ⟨others, rest.trans ?_⟩
      unfold link
      split <;> rfl

theorem initial_eq (assembly : Assembly) (linked : List Assembly) (declared : Bool) :
    ∃ others, initial assembly linked declared =
      { assembly, linked := others, hasLocalTypes := declared } := by
  obtain ⟨others, rest⟩ := foldl_link linked (ofAssembly assembly)
  refine ⟨others, ?_⟩
  cases declared with
  | true => exact congrArg withLocalTypes rest
  | false => exact rest

theorem special_eq_pure_iff {s : SpecialType} {symbol : Symbol} :
    m.special s = pure symbol ↔ m.specials.lookup s = some symbol := by
  unfold special
  cases m.specials.lookup s with
  | none => exact iff_of_false (Build.unsupported_ne_pure _ _) nofun
  | some kept => rw [Build.pure_inj, Option.some_inj]

theorem systemType_eq_pure_iff {symbol : Symbol} :
    m.systemType = pure symbol ↔ m.typeSymbol = some symbol := by
  unfold systemType
  cases m.typeSymbol with
  | none => exact iff_of_false (Build.unsupported_ne_pure _ _) nofun
  | some kept => rw [Build.pure_inj, Option.some_inj]

theorem attempt_refused {r : Registration} {fault : Fault}
    (refused : m.register r.hierarchy r.definition = pure (.error fault)) :
    m.attempt r = .error fault :=
  congrArg (fun step => step.outcome r.progress) refused

theorem Keeps.refl (m : Module) : m.Keeps m :=
  ⟨fun _ _ found => found, fun _ _ found => found, fun _ found => found⟩

theorem Keeps.trans (first : m.Keeps m') (second : m'.Keeps m'') : m.Keeps m'' where
  definition t d found := second.definition t d (first.definition t d found)
  special type symbol found := second.special type symbol (first.special type symbol found)
  systemType symbol found := second.systemType symbol (first.systemType symbol found)

theorem Registered.keeps (registered : m.Registered h d m') : m.Keeps m' := by
  obtain ⟨n, specials⟩ := registered.specials
  obtain ⟨n', typeSymbol⟩ := registered.typeSymbol
  constructor
  · intro t e found
    rw [definition?, registered.definitions, List.find?_append]
    exact Option.or_eq_some_iff.mpr (.inl found)
  · intro type symbol found
    rw [special_eq_pure_iff] at found ⊢
    rw [specials, found, Option.some_or]
  · intro symbol found
    rw [systemType_eq_pure_iff] at found ⊢
    rw [typeSymbol, found, Option.some_or]

end Module

namespace History

variable {σ : History} {assembly : Assembly} {declared : Bool} {r : Registration}

theorem offer_refused (refused : σ.home.register r.hierarchy r.definition =
    pure (.error (.malformed (.duplicateDefinition r.token)))) : σ.offer r = σ := by
  rw [offer, Module.attempt_refused refused]

theorem offer_cases (σ : History) (r : Registration) :
    ((∃ e, σ.home.definition? r.token = some e) ∧
        σ.home.register r.hierarchy r.definition =
          pure (.error (.malformed (.duplicateDefinition r.token)))) ∨
      ∃ m, σ.home.definition? r.token = none ∧ σ.home.attempt r = .ok m ∧
        σ.home.Registered r.hierarchy r.definition m ∧ σ.offer r = ⟨m, σ.accepted ++ [r]⟩ := by
  cases known : σ.home.definition? r.token with
  | some e => exact .inl ⟨⟨e, rfl⟩, Module.register_refused known⟩
  | none =>
      obtain ⟨m, result, registered⟩ :=
        Module.register_accepted (h := r.hierarchy) known r.progress
      have accepted : σ.home.attempt r = .ok m := result
      exact .inr ⟨m, rfl, accepted, registered, by rw [offer, accepted]⟩

theorem offer_keeps (σ : History) (r : Registration) : σ.home.Keeps (σ.offer r).home := by
  obtain ⟨-, refused⟩ | ⟨m, -, -, registered, next⟩ := σ.offer_cases r
  · rw [offer_refused refused]
    exact .refl _
  · rw [next]
    exact registered.keeps

theorem run_keeps (σ : History) (calls : List Registration) : σ.home.Keeps (σ.run calls).home := by
  induction calls generalizing σ with
  | nil => exact .refl _
  | cons r calls ih => exact (σ.offer_keeps r).trans (ih (σ.offer r))

structure Records (σ : History) (assembly : Assembly) (declared : Bool) : Prop where
  identity : σ.home.assembly = assembly
  definitions : σ.home.definitions = σ.accepted.map (·.definition)
  distinct : (σ.accepted.map (·.token)).Nodup
  names : σ.home.names = σ.accepted.map fun a => (a.fullName, a.definition)
  hasLocalTypes : σ.home.hasLocalTypes =
    (declared || σ.accepted.any fun a => a.definition.isLocal && a.definition.assembly == assembly)
  specials : ∀ s, Option.Rel Registration.IsNamedBy (σ.accepted.find? fun a => a.isFor s)
    (σ.home.specials.lookup s)
  typeSymbol : Option.Rel Registration.IsNamedBy
    (σ.accepted.find? fun a => Module.isSystemType a.definition) σ.home.typeSymbol

theorem Records.definition? (records : σ.Records assembly declared) (t : Token) :
    σ.home.definition? t = (σ.accepted.find? fun a => a.token == t).map (·.definition) := by
  rw [Module.definition?, records.definitions, List.find?_map]
  rfl

theorem Records.unknown_iff (records : σ.Records assembly declared) (t : Token) :
    σ.home.definition? t = none ↔ ∀ a ∈ σ.accepted, a.token ≠ t := by
  simp [records.definition?]

theorem Records.mem_definitions_iff (records : σ.Records assembly declared) {d : Definition} :
    d ∈ σ.home.definitions ↔ ∃ a ∈ σ.accepted, a.definition = d := by
  rw [records.definitions, List.mem_map]

theorem Records.mem_named_iff (records : σ.Records assembly declared) {fullName : String}
    {d : Definition} : d ∈ σ.home.named fullName ↔
      ∃ a ∈ σ.accepted, a.fullName = fullName ∧ a.definition = d := by
  simp [Module.named, records.names, and_assoc]

theorem first_append {kept : List Registration} {p : Registration → Bool} {role : Prop}
    [Decidable role] {known : Option Symbol} (n : Nat) (plays : p r = true ↔ role)
    (first : Option.Rel Registration.IsNamedBy (kept.find? p) known) :
    Option.Rel Registration.IsNamedBy ((kept ++ [r]).find? p)
      (known.or (if role then some (.named n r.definition) else none)) := by
  rw [List.find?_append]
  generalize kept.find? p = found at first
  cases first with
  | some named => exact .some named
  | none =>
      by_cases new : role
      · simpa [List.find?_singleton, plays.mpr new, new] using Option.Rel.some ⟨n, rfl⟩
      · have other : p r = false := by simpa [← plays] using new
        simp [other, new]

theorem Records.start (assembly : Assembly) (linked : List Assembly) (declared : Bool) :
    (start assembly linked declared).Records assembly declared := by
  obtain ⟨others, home⟩ := Module.initial_eq assembly linked declared
  constructor <;> simp [History.start, home]

theorem Records.offer (records : σ.Records assembly declared) (r : Registration) :
    (σ.offer r).Records assembly declared := by
  obtain ⟨-, refused⟩ | ⟨m, unknown, -, registered, next⟩ := σ.offer_cases r
  · rw [offer_refused refused]
    exact records
  obtain ⟨n, specials⟩ := registered.specials
  obtain ⟨n', typeSymbol⟩ := registered.typeSymbol
  rw [records.unknown_iff] at unknown
  rw [next]
  constructor
  · exact registered.assembly.trans records.identity
  · simp [registered.definitions, records.definitions]
  · simpa [List.nodup_append, records.distinct] using unknown
  · simp [registered.names, records.names, Registration.fullName]
  · simp [registered.hasLocalTypes, records.hasLocalTypes, Module.declaresLocal, records.identity,
      Bool.or_assoc]
  · intro s
    rw [specials s]
    exact first_append n (by simp [Registration.isFor]) (records.specials s)
  · rw [typeSymbol]
    exact first_append n' Iff.rfl records.typeSymbol

theorem Records.run (records : σ.Records assembly declared) (calls : List Registration) :
    (σ.run calls).Records assembly declared := by
  induction calls generalizing σ with
  | nil => exact records
  | cons r calls ih => exact ih (records.offer r)

theorem findsSymbol {first : Option Registration} {known : Option Symbol} {missing : Fault}
    {step : Build Symbol} (kept : Option.Rel Registration.IsNamedBy first known)
    (present : ∀ symbol, known = some symbol → step = pure symbol)
    (absent : known = none → step = Build.unsupported (some missing)) :
    Build.FindsSymbol first missing step := by
  cases kept with
  | some named =>
      obtain ⟨n, rfl⟩ := named
      exact ⟨n, present _ rfl⟩
  | none => exact absent rfl

theorem Records.isDetermined (records : σ.Records assembly declared) :
    σ.IsDetermined assembly declared where
  accepts r := by
    rw [← records.unknown_iff]
    obtain ⟨⟨e, known⟩, refused⟩ | ⟨m, unknown, accepted, -⟩ := σ.offer_cases r
    · simp [known, Module.attempt_refused refused]
    · exact iff_of_true ⟨m, accepted⟩ unknown
  refuses r taken := by
    obtain ⟨-, refused⟩ | ⟨m, unknown, -⟩ := σ.offer_cases r
    · exact ⟨refused, offer_refused refused⟩
    · obtain ⟨a, member, same⟩ := taken
      exact absurd same ((records.unknown_iff _).mp unknown a member)
  size := by simp [Module.size, records.definitions]
  definition := records.definition?
  distinct := records.distinct
  special s :=
    findsSymbol (records.specials s) (fun _ => Module.special_eq_pure_iff.mpr) fun absent => by
      rw [Module.special, absent]
  systemType := by
    refine findsSymbol records.typeSymbol (fun _ => Module.systemType_eq_pure_iff.mpr) ?_
    intro absent
    rw [Module.systemType, absent, records.identity]
  named fullName := by
    simp [Module.named, records.names, List.filter_map, Function.comp_def]
  hasLocalTypes := records.hasLocalTypes

/-- After any registrations, all answers of the module are determined by those that it accepted, and
what it has once found stays. -/
theorem run_isDetermined (assembly : Assembly) (linked : List Assembly) (declared : Bool)
    (calls later : List Registration) :
    ((start assembly linked declared).run calls).IsDetermined assembly declared ∧
      ((start assembly linked declared).run calls).home.Keeps
        ((start assembly linked declared).run (calls ++ later)).home := by
  refine ⟨((Records.start assembly linked declared).run calls).isDetermined, ?_⟩
  have continued : (start assembly linked declared).run (calls ++ later) =
      ((start assembly linked declared).run calls).run later := List.foldl_append
  rw [continued]
  exact run_keeps _ later

end History

end ClrTypes
