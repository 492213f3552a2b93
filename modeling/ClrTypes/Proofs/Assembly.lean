import ClrTypes.Assembly
import ClrTypes.Proofs.Version

namespace ClrTypes.Assembly

open Text (split trim isBlank IsTrimmed)

variable {a b : Assembly} {text component : List Char} {components : List (List Char)}

/-- The display name of the identity gives the identity back. -/
structure IsReadable (a : Assembly) : Prop where
  named : a.name ≠ ""
  single : ',' ∉ a.name.toList
  trimmed : IsTrimmed a.name.toList
  culture : ∀ culture ∈ a.culture, culture ≠ "" ∧ culture ≠ "neutral" ∧ ',' ∉ culture.toList ∧
    ∀ c ∈ culture.toList.getLast?, isBlank c = false

theorem amend_cases (read : amend a component = .ok b) : (∃ version, b = { a with version }) ∨
    ∃ culture, component = "Culture=".toList ++ culture ∧ culture ≠ [] ∧
      culture ≠ "neutral".toList ∧ b = { a with culture := some (String.ofList culture) } := by
  unfold amend at read
  split at read
  · obtain ⟨version, -, same⟩ := Text.bind_eq_ok_iff.mp read
    exact .inl ⟨version, (Except.ok.inj same).symm⟩
  · split at read
    · rename_i culture found
      split at read
      · exact .inl ⟨a.version, (Except.ok.inj read).symm⟩
      · rename_i proper
        rw [not_or] at proper
        exact .inr ⟨culture, Text.eq_append_of_after? found, proper.2, proper.1,
          (Except.ok.inj read).symm⟩
    · exact .inl ⟨a.version, (Except.ok.inj read).symm⟩

theorem amend_isReadable (readable : a.IsReadable) (single : ',' ∉ component)
    (trimmed : IsTrimmed component) (read : amend a component = .ok b) : b.IsReadable := by
  rcases amend_cases read with ⟨version, rfl⟩ | ⟨culture, rfl, some, proper, rfl⟩
  · exact { readable with }
  · refine { readable with culture := ?_ }
    intro kept same
    obtain rfl := Option.some.inj same
    rw [String.toList_ofList]
    refine ⟨?_, ?_, ?_, ?_⟩
    · exact fun empty => some (by simpa using congrArg String.toList empty)
    · exact fun neutral => proper (by simpa using congrArg String.toList neutral)
    · exact fun comma => single (List.mem_append_right _ comma)
    · have finish := trimmed.finish
      rwa [List.getLast?_append_of_ne_nil _ some] at finish

theorem foldlM_amend_isReadable (readable : a.IsReadable)
    (each : ∀ component ∈ components, ',' ∉ component ∧ IsTrimmed component)
    (read : components.foldlM amend a = .ok b) : b.IsReadable := by
  induction components generalizing a with
  | nil =>
      obtain rfl := Except.ok.inj read
      exact readable
  | cons component components ih =>
      obtain ⟨first, rest⟩ := List.forall_mem_cons.mp each
      rw [List.foldlM_cons] at read
      obtain ⟨next, amended, read⟩ := Text.bind_eq_ok_iff.mp read
      exact ih (amend_isReadable readable first.1 first.2 amended) rest read

def ofName (name : List Char) : Assembly :=
  { name := String.ofList name, version := .zero, culture := none }

theorem parse_of_split {first : List Char} {rest : List (List Char)}
    (pieces : split ',' text = first :: rest) : parse text =
      if trim first = [] then .error (.malformed .emptyAssemblyName)
      else (rest.map trim).foldlM amend (ofName (trim first)) := by
  rw [parse, pieces, List.map_cons]
  cases trim first <;> rfl

theorem parse_isReadable (read : parse text = .ok a) : a.IsReadable := by
  obtain ⟨first, rest, pieces⟩ := List.exists_cons_of_ne_nil (Text.split_ne_nil ',' text)
  have single (piece : List Char) (member : piece ∈ first :: rest) : ',' ∉ trim piece :=
    fun comma => Text.not_mem_of_mem_split (pieces ▸ member) (Text.mem_of_mem_trim comma)
  rw [parse_of_split pieces] at read
  split at read
  · contradiction
  · rename_i some
    have start : (ofName (trim first)).IsReadable := by
      constructor
      · exact fun empty => some (by simpa [ofName] using congrArg String.toList empty)
      · simpa [ofName] using single first List.mem_cons_self
      · simpa [ofName] using Text.trim_isTrimmed first
      · exact fun _ none => absurd none (by simp [ofName])
    refine foldlM_amend_isReadable start ?_ read
    intro component member
    obtain ⟨piece, found, rfl⟩ := List.mem_map.mp member
    exact ⟨single piece (List.mem_cons_of_mem _ found), Text.trim_isTrimmed piece⟩

theorem toList_display (a : Assembly) : a.display.toList = [','].intercalate
    [a.name.toList, ' ' :: ("Version=".toList ++ a.version.display.toList),
      ' ' :: ("Culture=".toList ++ (a.culture.getD "neutral").toList)] := by
  simp [display]

theorem amend_version (a : Assembly) (version : Version) :
    a.amend ("Version=".toList ++ version.display.toList) = .ok { a with version } := by
  simp only [amend, Text.after?_append, Version.parse_display]
  rfl

theorem amend_culture (proper : ∀ culture ∈ a.culture, culture ≠ "" ∧ culture ≠ "neutral") :
    amend { a with culture := none } ("Culture=".toList ++ (a.culture.getD "neutral").toList) =
      .ok a := by
  obtain ⟨name, version, culture⟩ := a
  have other : Text.after? "Version=".toList
      ("Culture=".toList ++ (culture.getD "neutral").toList) = none := rfl
  simp only [amend, other, Text.after?_append]
  cases culture with
  | none => exact if_pos (.inl rfl)
  | some culture =>
      obtain ⟨some, other⟩ := proper culture rfl
      have shown : ¬ (culture.toList = "neutral".toList ∨ culture.toList = "".toList) := by
        simpa only [String.toList_inj] using not_or.mpr ⟨other, some⟩
      rw [Option.getD_some, String.ofList_toList]
      exact if_neg shown

theorem comma_not_mem_version (v : Version) : ',' ∉ v.display.toList := by
  intro comma
  rcases Version.mem_display comma with dot | digit
  · exact absurd dot (by decide)
  · exact absurd digit (by decide)

theorem isBlank_of_mem_version {v : Version} {c : Char} (member : c ∈ v.display.toList) :
    isBlank c = false := by
  rcases Version.mem_display member with rfl | digit
  · rfl
  · exact Text.isBlank_of_isDigit digit

theorem IsReadable.cultureText (readable : a.IsReadable) :
    ',' ∉ (a.culture.getD "neutral").toList ∧
      ∀ c ∈ (a.culture.getD "neutral").toList.getLast?, isBlank c = false := by
  cases given : a.culture with
  | none => exact ⟨by decide, (Text.trim_eq_self_iff.mp rfl).finish⟩
  | some culture => exact (readable.culture culture given).2.2

theorem IsReadable.split_display (readable : a.IsReadable) : split ',' a.display.toList =
    [a.name.toList, ' ' :: ("Version=".toList ++ a.version.display.toList),
      ' ' :: ("Culture=".toList ++ (a.culture.getD "neutral").toList)] := by
  rw [toList_display]
  apply Text.split_intercalate
  · have version := comma_not_mem_version a.version
    have culture := readable.cultureText.1
    simpa [List.mem_append, version, culture] using readable.single
  · simp

theorem trim_labelled {label : String} {s : List Char} (same : trim label.toList = label.toList)
    (some : label.toList ≠ []) (finish : ∀ c ∈ s.getLast?, isBlank c = false) :
    trim (' ' :: (label.toList ++ s)) = label.toList ++ s := by
  have trimmed : IsTrimmed label.toList := Text.trim_eq_self_iff.mp same
  rw [Text.trim_space, Text.trim_eq_self (Text.isTrimmed_append trimmed some finish)]

theorem IsReadable.parse_display (readable : a.IsReadable) : parse a.display.toList = .ok a := by
  have named : a.name.toList ≠ [] := by simpa using readable.named
  have version := trim_labelled (show trim "Version=".toList = _ from rfl) (by decide)
    fun c last => isBlank_of_mem_version (v := a.version) (List.mem_of_mem_getLast? last)
  have culture := trim_labelled (show trim "Culture=".toList = _ from rfl) (by decide)
    readable.cultureText.2
  have proper := amend_culture fun c given =>
    ⟨(readable.culture c given).1, (readable.culture c given).2.1⟩
  have start : ofName a.name.toList = { a with version := .zero, culture := none } := by
    simp [ofName]
  rw [parse_of_split readable.split_display, Text.trim_eq_self readable.trimmed, if_neg named,
    List.map_cons, List.map_singleton, version, culture, start, List.foldlM_cons]
  refine Text.bind_eq_ok_iff.mpr ⟨_, amend_version _ a.version, ?_⟩
  exact Text.bind_eq_ok_iff.mpr ⟨_, proper, rfl⟩

def isTelling (component : List Char) : Bool :=
  "Version=".toList.isPrefixOf (trim component) || "Culture=".toList.isPrefixOf (trim component)

theorem amend_of_not_telling (a : Assembly) (idle : isTelling component = false) :
    a.amend (trim component) = .ok a := by
  have other {label : List Char} (no : label.isPrefixOf (trim component) = false) :
      Text.after? label (trim component) = none := by
    rw [Option.eq_none_iff_forall_ne_some]
    intro rest found
    rw [Text.eq_append_of_after? found, List.isPrefixOf_iff_prefix.mpr (List.prefix_append _ _)] at no
    contradiction
  obtain ⟨version, culture⟩ := Bool.or_eq_false_iff.mp idle
  rw [amend, other version, other culture]
  rfl

theorem foldlM_amend_filter (a : Assembly) (components : List (List Char)) :
    (components.map trim).foldlM amend a =
      ((components.filter isTelling).map trim).foldlM amend a := by
  induction components generalizing a with
  | nil => rfl
  | cons component components ih =>
      rw [List.map_cons, List.foldlM_cons]
      cases telling : isTelling component with
      | false =>
          rw [amend_of_not_telling a telling, List.filter_cons_of_neg (by simp [telling]), ← ih]
          rfl
      | true =>
          rw [List.filter_cons_of_pos telling, List.map_cons, List.foldlM_cons]
          exact congrArg _ (funext ih)

theorem parse_intercalate {name : List Char} {others : List (List Char)}
    (clean : ∀ piece ∈ name :: (components ++ others), ',' ∉ piece)
    (same : components.filter isTelling = others.filter isTelling) :
    parse ([','].intercalate (name :: components)) = parse ([','].intercalate (name :: others)) := by
  have pieces (rest : List (List Char)) (among : ∀ piece ∈ rest, piece ∈ components ++ others) :
      split ',' ([','].intercalate (name :: rest)) = name :: rest := by
    apply Text.split_intercalate _ (List.cons_ne_nil _ _)
    intro piece member
    rcases List.mem_cons.mp member with rfl | member
    · exact clean _ List.mem_cons_self
    · exact clean _ (List.mem_cons_of_mem _ (among piece member))
  rw [parse_of_split (pieces components fun _ => List.mem_append_left _),
    parse_of_split (pieces others fun _ => List.mem_append_right _), foldlM_amend_filter,
    foldlM_amend_filter _ others, same]

/-- The display name of an identity reads back exactly if the identity is readable, and nothing else
is ever read. Components of a display name that say neither the version nor the culture make no
difference, wherever they come after the name. -/
theorem display_roundTrips :
    (∀ a : Assembly, parse a.display.toList = .ok a ↔ a.IsReadable) ∧
    (∀ text (a : Assembly), parse text = .ok a →
      a.IsReadable ∧ parse a.display.toList = .ok a) ∧
    ∀ (name : List Char) (components others : List (List Char)),
      (∀ piece ∈ name :: (components ++ others), ',' ∉ piece) →
      components.filter isTelling = others.filter isTelling →
      parse ([','].intercalate (name :: components)) =
        parse ([','].intercalate (name :: others)) := by
  refine ⟨fun a => ⟨parse_isReadable, IsReadable.parse_display⟩, ?_, ?_⟩
  · intro text a read
    have readable := parse_isReadable read
    exact ⟨readable, readable.parse_display⟩
  · intro name components others clean same
    exact parse_intercalate clean same

theorem display_roundTrips_app :
    let app : Assembly := ⟨"App", ⟨1, 2, 0, 0⟩, some " de"⟩
    let name := "App ".toList
    let told := ["Version=+1.02".toList, " Culture= de ".toList]
    let untold := " PublicKey=0".toList
    parse ([','].intercalate (name :: told)) = .ok app ∧ app.IsReadable ∧
      parse app.display.toList = .ok app ∧
      parse ([','].intercalate (name :: untold :: told)) = .ok app := by
  intro app name told untold
  have read : parse ([','].intercalate (name :: told)) = .ok app := rfl
  obtain ⟨-, reads, others⟩ := display_roundTrips
  refine ⟨read, (reads _ app read).1, (reads _ app read).2, ?_⟩
  exact (others name (untold :: told) told (by decide) rfl).trans read

end ClrTypes.Assembly
