import ApiShapes.Plan.Step

/-!
# What steps leave behind

`perform` stops at the first step that fails, so what it adds to a plan is the beginning of what the
steps emit.  Steps are faithfully checked when carrying them out succeeds exactly if none of them is
a rejection and the classes they emit are new and different from each other.  This is a property of
the steps alone: it holds for every plan they are added to.  Main statement: it holds of all steps in
which every class is emitted behind a test of its name, with no class of that name in between, and
such steps can be put one behind the other.
-/

namespace ApiShapes

/-- Two classes that cannot both be generated: they have one name in one namespace. -/
def Artifact.SameClass (left right : Artifact) : Prop :=
  left.ns = right.ns ∧ left.name = right.name
  deriving Decidable

namespace Plan

/-- The classes that steps emit, whether or not they can be carried out. -/
def emitted : List Step → List Artifact
  | [] => []
  | .reserve _ _ _ :: steps => emitted steps
  | .emit artifact :: steps => artifact :: emitted steps
  | .reject _ _ :: steps => emitted steps

/-- The classes that steps emit, unless one of the steps is a rejection. -/
def accepted : List Step → Option (List Artifact)
  | [] => some []
  | .reserve _ _ _ :: steps => accepted steps
  | .emit artifact :: steps => (accepted steps).map (artifact :: ·)
  | .reject _ _ :: _ => none

/-- Steps put together emit what both parts emit. -/
@[simp]
theorem emitted_append (first second : List Step) :
    emitted (first ++ second) = emitted first ++ emitted second := by
  induction first with
  | nil => rfl
  | cons step steps ih =>
      cases step <;> simp [emitted, ih]

/-- Steps put together are free of rejections if both parts are. -/
@[simp]
theorem accepted_append (first second : List Step) :
    accepted (first ++ second) =
      (accepted first).bind fun classes =>
        (accepted second).map (classes ++ ·) := by
  induction first with
  | nil => simp [accepted]
  | cons step steps ih =>
      cases step with
      | reserve ns className pointer => simpa [accepted] using ih
      | reject pointer problem => rfl
      | emit artifact =>
          simp only [List.cons_append, accepted, ih]
          cases accepted steps <;> cases accepted second <;> rfl

/-- Without rejections, the accepted classes are the emitted ones. -/
theorem eq_emitted_of_accepted
    {steps : List Step} {classes : List Artifact}
    (success : accepted steps = some classes) :
    classes = emitted steps := by
  induction steps generalizing classes with
  | nil =>
      simp only [accepted, Option.some.injEq] at success
      exact success.symm
  | cons step steps ih =>
      cases step with
      | reserve ns className pointer => exact ih success
      | reject pointer problem => simp [accepted] at success
      | emit artifact =>
          simp only [accepted, Option.map_eq_some_iff] at success
          rcases success with ⟨rest, restSuccess, rfl⟩
          simp [emitted, ih restSuccess]

/-- A name is taken if some planned class of the namespace has it. -/
theorem isTaken_iff
    {planned : List Artifact} {ns className : String} :
    isTaken planned ns className = true ↔
      ∃ artifact ∈ planned, artifact.ns = ns ∧ artifact.name = className := by
  simp [isTaken]

/--
The second part of some steps starts from the plan that the first part leaves, if that succeeds.
-/
theorem perform_append
    (planned : List Artifact) (first second : List Step) :
    perform planned (first ++ second) =
      match perform planned first with
      | (classes, none) => perform classes second
      | (classes, some error) => (classes, some error) := by
  induction first generalizing planned with
  | nil => rfl
  | cons step steps ih =>
      cases step with
      | reserve ns className pointer =>
          simp only [List.cons_append, perform]
          split
          · rfl
          · exact ih planned
      | emit artifact => exact ih (planned ++ [artifact])
      | reject pointer problem => rfl

/-- Whatever happens, a plan only grows, and by a beginning of what the steps emit. -/
theorem perform_added
    (planned : List Artifact) (steps : List Step) :
    ∃ added, added <+: emitted steps ∧
      (perform planned steps).1 = planned ++ added := by
  induction steps generalizing planned with
  | nil => exact ⟨[], List.nil_prefix, by simp [perform]⟩
  | cons step steps ih =>
      cases step with
      | reserve ns className pointer =>
          simp only [perform]
          split
          · exact ⟨[], List.nil_prefix, by simp⟩
          · exact ih planned
      | reject pointer problem =>
          exact ⟨[], List.nil_prefix, by simp [perform]⟩
      | emit artifact =>
          rcases ih (planned ++ [artifact]) with ⟨added, isBeginning, grown⟩
          refine ⟨artifact :: added, ?_, ?_⟩
          · exact List.cons_prefix_cons.mpr ⟨rfl, isBeginning⟩
          · simpa [perform] using grown

/-- Steps that can be carried out add all that they emit. -/
theorem eq_emitted_of_perform
    {planned classes : List Artifact} {steps : List Step}
    (success : perform planned steps = (classes, none)) :
    classes = planned ++ emitted steps := by
  induction steps generalizing planned with
  | nil =>
      simp only [perform, Prod.mk.injEq, and_true] at success
      simp [emitted, success]
  | cons step steps ih =>
      cases step with
      | reserve ns className pointer =>
          simp only [perform] at success
          split at success
          · simp at success
          · exact ih success
      | reject pointer problem => simp [perform] at success
      | emit artifact => simpa [emitted] using ih success

/--
Carrying the steps out succeeds, on whatever was planned before, exactly if none of them is a
rejection and no two classes of the result that the steps had a part in are the same.
-/
def Faithful (steps : List Step) : Prop :=
  ∀ planned classes : List Artifact,
    perform planned steps = (classes, none) ↔
      ∃ added, accepted steps = some added ∧ classes = planned ++ added ∧
        added.Pairwise (fun left right => ¬ left.SameClass right) ∧
        ∀ old ∈ planned, ∀ new ∈ added, ¬ old.SameClass new

theorem Faithful.nil : Faithful [] := by
  intro planned classes
  simp [perform, accepted, eq_comm]

theorem Faithful.reject (pointer : Pointer) (problem : SchemaProblem) (steps : List Step) :
    Faithful (.reject pointer problem :: steps) := by
  intro planned classes
  simp [perform, accepted]

/--
Steps may be put together: success goes through the plan in the middle, where the second part
starts.
-/
theorem Faithful.append
    {first second : List Step}
    (firstFaithful : Faithful first)
    (secondFaithful : Faithful second) :
    Faithful (first ++ second) := by
  intro planned classes
  have inTwoParts :
      perform planned (first ++ second) = (classes, none) ↔
        ∃ middle, perform planned first = (middle, none) ∧
          perform middle second = (classes, none) := by
    rw [perform_append]
    rcases perform planned first with ⟨middle, _ | error⟩ <;> simp
  rw [inTwoParts]
  constructor
  · rintro ⟨middle, firstRun, secondRun⟩
    rcases (firstFaithful planned middle).mp firstRun with
      ⟨early, earlyAccepted, rfl, earlyApart, earlyNew⟩
    rcases (secondFaithful _ classes).mp secondRun with
      ⟨late, lateAccepted, rfl, lateApart, lateNew⟩
    refine ⟨early ++ late, ?_, List.append_assoc _ _ _, ?_, ?_⟩
    · simp [earlyAccepted, lateAccepted]
    · refine List.pairwise_append.mpr ⟨earlyApart, lateApart, ?_⟩
      intro old oldMember
      exact lateNew old (List.mem_append_right planned oldMember)
    · intro old oldMember new newMember
      rcases List.mem_append.mp newMember with isEarly | isLate
      · exact earlyNew old oldMember new isEarly
      · exact lateNew old (List.mem_append_left early oldMember) new isLate
  · rintro ⟨added, addedAccepted, rfl, apart, addedNew⟩
    simp only [accepted_append, Option.bind_eq_some_iff, Option.map_eq_some_iff]
      at addedAccepted
    rcases addedAccepted with ⟨early, earlyAccepted, late, lateAccepted, rfl⟩
    rcases List.pairwise_append.mp apart with ⟨earlyApart, lateApart, across⟩
    refine ⟨planned ++ early, ?_, ?_⟩
    · refine (firstFaithful _ _).mpr ⟨early, earlyAccepted, rfl, earlyApart, ?_⟩
      intro old oldMember new newMember
      exact addedNew old oldMember new (List.mem_append_left late newMember)
    · refine (secondFaithful _ _).mpr
        ⟨late, lateAccepted, (List.append_assoc _ _ _).symm, lateApart, ?_⟩
      intro old oldMember new newMember
      rcases List.mem_append.mp oldMember with wasPlanned | isEarly
      · exact addedNew old wasPlanned new (List.mem_append_right early newMember)
      · exact across old isEarly new newMember

/--
The test made when a name is reserved is as good as one made when the class is emitted.  The test
looks at what was planned before, and the class joins behind what the steps add to it.
-/
theorem Faithful.guarded
    {steps : List Step} (faithful : Faithful steps)
    (artifact : Artifact) (pointer : Pointer)
    (unused : ∀ inner ∈ emitted steps, ¬ inner.SameClass artifact) :
    Faithful (.reserve artifact.ns artifact.name pointer ::
      (steps ++ [.emit artifact])) := by
  intro planned classes
  have run :
      perform planned (.reserve artifact.ns artifact.name pointer ::
          (steps ++ [.emit artifact])) = (classes, none) ↔
        (∀ old ∈ planned, ¬ old.SameClass artifact) ∧
          ∃ middle, perform planned steps = (middle, none) ∧
            classes = middle ++ [artifact] := by
    simp only [perform, perform_append, isTaken_iff, Artifact.SameClass]
    split
    · rename_i taken
      rcases taken with ⟨old, member, same⟩
      constructor
      · intro failed
        simp at failed
      · rintro ⟨free, _⟩
        exact absurd same (free old member)
    · rename_i free
      rcases perform planned steps with ⟨middle, _ | error⟩
      · simp only [not_exists, not_and] at free ⊢
        simp only [Prod.mk.injEq, and_true, exists_eq_left']
        exact ⟨fun same => ⟨free, same.symm⟩, fun both => both.2.symm⟩
      · simp
  rw [run]
  constructor
  · rintro ⟨free, middle, inner, rfl⟩
    rcases (faithful planned middle).mp inner with ⟨added, isAccepted, rfl, apart, new⟩
    refine ⟨added ++ [artifact], ?_, List.append_assoc _ _ _, ?_, ?_⟩
    · simp [accepted, isAccepted]
    · refine List.pairwise_append.mpr ⟨apart, List.pairwise_singleton _ _, ?_⟩
      intro earlier member last lastMember
      rw [List.mem_singleton.mp lastMember]
      exact unused earlier (eq_emitted_of_accepted isAccepted ▸ member)
    · intro old oldMember class_ member
      rcases List.mem_append.mp member with isInner | isLast
      · exact new old oldMember class_ isInner
      · rw [List.mem_singleton.mp isLast]
        exact free old oldMember
  · rintro ⟨added, isAccepted, rfl, apart, new⟩
    simp only [accepted, accepted_append, Option.bind_eq_some_iff, Option.map_some,
      Option.some.injEq] at isAccepted
    rcases isAccepted with ⟨inner, innerAccepted, rfl⟩
    rcases List.pairwise_append.mp apart with ⟨innerApart, _, _⟩
    refine ⟨?_, planned ++ inner, ?_, (List.append_assoc _ _ _).symm⟩
    · intro old oldMember
      exact new old oldMember artifact (List.mem_append_right inner (List.mem_singleton_self _))
    · refine (faithful _ _).mpr ⟨inner, innerAccepted, rfl, innerApart, ?_⟩
      intro old oldMember class_ member
      exact new old oldMember class_ (List.mem_append_left _ member)

/--
Steps in which every class is emitted behind a test of its name, and no class of that name in
between.
-/
inductive Checked : List Step → Prop where
  | nil : Checked []
  | reject (pointer : Pointer) (problem : SchemaProblem) (steps : List Step) :
      Checked (.reject pointer problem :: steps)
  | guarded {steps : List Step} (artifact : Artifact) (pointer : Pointer)
      (inner : Checked steps)
      (unused : ∀ earlier ∈ emitted steps, ¬ earlier.SameClass artifact) :
      Checked (.reserve artifact.ns artifact.name pointer :: (steps ++ [.emit artifact]))
  | append {first second : List Step}
      (before : Checked first) (behind : Checked second) : Checked (first ++ second)

/-- Steps that are checked for each item are checked for all items in a row. -/
theorem Checked.flatMap
    {α : Type} {items : List α} {steps : α → List Step}
    (checked : ∀ item, Checked (steps item)) :
    Checked (items.flatMap steps) := by
  induction items with
  | nil => exact .nil
  | cons item items ih =>
      rw [List.flatMap_cons]
      exact (checked item).append ih

/-- Steps that test every name in time are faithfully checked. -/
theorem Checked.faithful {steps : List Step} (checked : Checked steps) : Faithful steps := by
  induction checked with
  | nil => exact .nil
  | reject pointer problem steps => exact .reject pointer problem steps
  | guarded artifact pointer inner unused ih => exact ih.guarded artifact pointer unused
  | append before behind beforeIH behindIH => exact beforeIH.append behindIH

end Plan

end ApiShapes
