import ClrTypes.Proofs.Recording

namespace ClrTypes.Hierarchy

variable {h h' : Hierarchy} {d : Definition}

theorem nameWithin_cons (d c : Definition) (outer : List Definition) :
    nameWithin d (c :: outer) = nameWithin c outer ++ "+" ++ d.name := by
  unfold nameWithin
  rw [List.reverse_cons]
  cases outer.reverse with
  | nil => rfl
  | cons outermost inner => simp

theorem nameWithin_ne_qualifiedName (d c : Definition) (outer : List Definition) :
    nameWithin d (c :: outer) ≠ d.qualifiedName := by
  intro same
  have letters := congrArg String.toList same
  rw [nameWithin_cons, Definition.qualifiedName] at letters
  -- without a namespace the lengths differ, and with one the letters before the name do
  by_cases bare : d.space.isEmpty = true
  · have length := congrArg List.length letters
    simp only [bare, if_true, String.toList_append, List.length_append] at length
    simp at length
  · simp only [bare, Bool.false_eq_true, if_false, String.toList_append] at letters
    have spaces := congrArg List.getLast? (List.append_cancel_right letters)
    simp at spaces

theorem nameWithin_append_ne (d : Definition) (outer : List Definition) (next : Definition)
    (rest : List Definition) : nameWithin d (outer ++ next :: rest) ≠ nameWithin d outer := by
  induction outer generalizing d with
  | nil => exact nameWithin_ne_qualifiedName d next rest
  | cons c outer ih =>
      intro same
      rw [List.cons_append, nameWithin_cons, nameWithin_cons] at same
      have letters := congrArg String.toList same
      simp only [String.toList_append] at letters
      have cut := List.append_cancel_right (List.append_cancel_right letters)
      exact ih c (String.toList_inj.mp cut)

theorem fullName_of_isChain {outer : List Definition} (chained : h.IsChain d (d :: outer))
    (short : outer.length < namingDepth) : h.fullName d = nameWithin d outer := by
  rw [fullName, chained.outward?_eq (Nat.le_sub_one_of_lt short)]

theorem fullName_of_tooDeep (deep : h.TooDeep namingDepth d) : h.fullName d = d.name := by
  have none : h.outward? (namingDepth - 1) d = none := outward?_eq_none_iff.mpr deep
  rw [fullName, none]

theorem IsCutShort.goes_on (short : IsCutShort h h' d) (cut : IsCutFrom h h')
    {chain : List Definition} (chained : h'.IsChain d chain) :
    ∃ outer next rest, chain = d :: (outer ++ next :: rest) ∧ h.IsChain d (d :: outer) := by
  -- the shorter chain ends where the walk does, and there the longer one has a further link
  induction chained with
  | @outermost d top =>
      obtain ⟨e, walk, ends, goes_on⟩ := short
      rcases walk.cases_head with rfl | ⟨next, inside, -⟩
      · exact absurd top goes_on
      · rcases cut d with ended | same
        · simp [ended] at inside
        · simp [same, top] at inside
  | @nested d next rest around chained ih =>
      obtain ⟨e, walk, ends, goes_on⟩ := short
      rcases walk.cases_head with rfl | ⟨next', inside, deeper⟩
      · obtain ⟨outer, rfl⟩ := chained.eq_cons
        exact ⟨[], next, outer, rfl, .outermost ends⟩
      · rcases cut d with ended | same
        · simp [ended] at inside
        · obtain rfl := Option.some.inj ((inside.symm.trans same).trans around)
          obtain ⟨outer, further, beyond, rfl, old⟩ := ih ⟨e, deeper, ends, goes_on⟩
          exact ⟨next' :: outer, further, beyond, rfl, .nested inside old⟩

/-- A chain that is cut short keeps its name only where that is the bare name, before and after. -/
theorem IsCutShort.fullName_eq_iff (short : IsCutShort h h' d) (cut : IsCutFrom h h') :
    h'.fullName d = h.fullName d ↔ h'.TooDeep namingDepth d ∧ h.fullName d = d.name := by
  cases walk : h'.outward? (namingDepth - 1) d with
  | none =>
      have deep : h'.TooDeep namingDepth d := outward?_eq_none_iff.mp walk
      rw [fullName_of_tooDeep deep, and_iff_right deep, eq_comm]
  | some containers =>
      obtain ⟨chained, few⟩ := isChain_of_outward? walk
      obtain ⟨outer, next, rest, same, old⟩ := short.goes_on cut chained
      obtain rfl := List.tail_eq_of_cons_eq same
      have room : (outer ++ next :: rest).length < namingDepth := Nat.lt_succ_of_le few
      have shorter : outer.length < namingDepth := by
        rw [List.length_append] at room
        omega
      have renamed : h'.fullName d ≠ h.fullName d := by
        rw [fullName_of_isChain chained room, fullName_of_isChain old shorter]
        exact nameWithin_append_ne d outer next rest
      refine iff_of_false renamed fun bare => ?_
      exact Nat.lt_irrefl _ (Nat.lt_of_lt_of_le (bare.1 _ chained) room)

theorem IsCutFrom.fullName_eq_iff (cut : IsCutFrom h h') (d : Definition) :
    h'.fullName d = h.fullName d ↔
      (IsCutShort h h' d → h'.TooDeep namingDepth d ∧ h.fullName d = d.name) := by
  by_cases short : IsCutShort h h' d
  · rw [short.fullName_eq_iff cut, forall_prop_of_true short]
  · exact iff_of_true (cut.agreesOn.fullName_eq short) fun again => absurd again short

end ClrTypes.Hierarchy
