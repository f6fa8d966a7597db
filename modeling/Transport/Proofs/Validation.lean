import Transport.Pipeline
/-!
# Checking a pipeline

`Pipeline.build` runs its checks one after another and stops at the first that fails. This
module states each check on its own, by the position it looks at, lists them in the order
they run, and shows that `build` reports the first failing one:

1. for each action in the order given, that its label is none of the earlier actions';
2. that some action runs in the along-step stage;
3. the physics (`PhysicsParams.checks`): some model is registered; for each model in id
   order, that its label is none of the earlier models' and then that its range can cover
   something; a positive maximum step if one is set; each stopping power finite and not
   negative, in the order set;
4. for each model in id order, that its label is no action's.

* `PhysicsParams.validate_eq_firstFailure`, `checkActions_eq_firstFailure`: the code's loops
  and searches report the first failing check of these lists.
* `Pipeline.build_error_iff`, `Pipeline.build_ok_iff`: `build` fails with exactly that
  error, and succeeds exactly when the action labels are distinct, some action is an
  along-step, the physics is valid and no model shares a label with an action.
* `Pipeline.build_sorted`: a built pipeline lists the pre-step, along-step and post-step
  actions, each stage in the order given; its stages are those lists; and all its labels,
  with the models', are distinct.
-/
namespace Transport

/-- The outcome of checks run in order: the error of the first that fails, or success. -/
def firstFailure : List (Option PipelineError) → Except PipelineError Unit
  | [] => .ok ()
  | some e :: _ => .error e
  | none :: cs => firstFailure cs

@[simp] theorem firstFailure_nil : firstFailure [] = .ok () := rfl

@[simp] theorem firstFailure_some (e : PipelineError) (cs : List (Option PipelineError)) :
    firstFailure (some e :: cs) = .error e := rfl

@[simp] theorem firstFailure_none (cs : List (Option PipelineError)) :
    firstFailure (none :: cs) = firstFailure cs := rfl

theorem firstFailure_append (cs ds : List (Option PipelineError)) :
    firstFailure (cs ++ ds) = (firstFailure cs).bind fun _ => firstFailure ds := by
  induction cs with
  | nil => rfl
  | cons c cs ih => cases c <;> simp [ih, Except.bind]

theorem firstFailure_eq_ok_iff {cs : List (Option PipelineError)} :
    firstFailure cs = .ok () ↔ ∀ c ∈ cs, c = none := by
  induction cs with
  | nil => simp
  | cons c cs ih =>
    cases c with
    | none => simp [ih]
    | some e => simp

theorem firstFailure_map {α : Type} (l : List α) (bad : α → Bool) (f : α → PipelineError) :
    firstFailure (l.map fun x => if bad x then some (f x) else none) =
      match l.find? bad with
      | some x => .error (f x)
      | none => .ok () := by
  induction l with
  | nil => rfl
  | cons x l ih =>
    by_cases hx : bad x
    · simp [hx]
    · simp [hx, ih]

/-! ## Distinct labels -/

/-- The check that the label at position `k` is none of the labels before it. -/
def freshAt (labels : List String) (k : Nat) : Option PipelineError :=
  match labels[k]? with
  | some l => if (labels.take k).contains l then some (.duplicateLabel l) else none
  | none => none

/-- The label checks of a list, one per position, in order. -/
def freshChecks (labels : List String) : List (Option PipelineError) :=
  (List.range labels.length).map (freshAt labels)

theorem firstRepeat_eq_firstFailure (seen labels : List String) :
    (match firstRepeat seen labels with
      | some l => Except.error (PipelineError.duplicateLabel l)
      | none => Except.ok ()) =
      firstFailure ((List.range labels.length).map fun k =>
        freshAt (seen ++ labels) (seen.length + k)) := by
  induction labels generalizing seen with
  | nil => rfl
  | cons l labels ih =>
    have hfirst : freshAt (seen ++ l :: labels) seen.length =
        if seen.contains l then some (.duplicateLabel l) else none := by
      simp [freshAt]
    have hrest : ∀ k, freshAt (seen ++ l :: labels) (seen.length + (k + 1)) =
        freshAt ((seen ++ [l]) ++ labels) ((seen ++ [l]).length + k) := by
      intro k
      rw [List.append_assoc, List.singleton_append, List.length_append, List.length_singleton,
        Nat.add_assoc, Nat.add_comm 1 k]
    rw [List.length_cons, List.range_succ_eq_map, List.map_cons, List.map_map, Nat.add_zero,
      hfirst]
    simp only [Function.comp_def, hrest]
    unfold firstRepeat
    by_cases hl : seen.contains l
    · simp only [hl, if_true, firstFailure_some]
    · simp only [hl, Bool.false_eq_true, if_false, firstFailure_none]
      exact ih (seen ++ [l])

theorem firstRepeat_nil_eq_firstFailure (labels : List String) :
    (match firstRepeat [] labels with
      | some l => Except.error (PipelineError.duplicateLabel l)
      | none => Except.ok ()) = firstFailure (freshChecks labels) := by
  simpa [freshChecks] using firstRepeat_eq_firstFailure [] labels

theorem firstRepeat_eq_none_iff (seen labels : List String) :
    firstRepeat seen labels = none ↔ (∀ l ∈ labels, l ∉ seen) ∧ labels.Nodup := by
  induction labels generalizing seen with
  | nil => simp [firstRepeat]
  | cons l labels ih =>
    unfold firstRepeat
    by_cases hl : seen.contains l
    · have hmem : l ∈ seen := by simpa using hl
      simp only [hl, if_true, reduceCtorEq, false_iff, not_and]
      exact fun h => absurd hmem (h l List.mem_cons_self)
    · have hmem : l ∉ seen := by simpa using hl
      simp only [hl, Bool.false_eq_true, if_false, ih, List.mem_append, List.mem_singleton,
        not_or, List.forall_mem_cons, List.nodup_cons]
      constructor
      · rintro ⟨h, hnd⟩
        exact ⟨⟨hmem, fun x hx => (h x hx).1⟩, fun hl' => (h l hl').2 rfl, hnd⟩
      · rintro ⟨⟨-, h⟩, hnot, hnd⟩
        exact ⟨fun x hx => ⟨h x hx, fun hxl => hnot (hxl ▸ hx)⟩, hnd⟩

theorem freshChecks_pass_iff (labels : List String) :
    (∀ c ∈ freshChecks labels, c = none) ↔ labels.Nodup := by
  rw [← firstFailure_eq_ok_iff, ← firstRepeat_nil_eq_firstFailure]
  have hnone := firstRepeat_eq_none_iff [] labels
  simp only [List.not_mem_nil, not_false_eq_true, implies_true, true_and] at hnone
  rw [← hnone]
  cases firstRepeat [] labels <;> simp

/-! ## The physics -/

namespace PhysicsParams

/-- The labels of the models, in id order. -/
def modelLabels (p : PhysicsParams) : List String := p.models.toList.map (·.label)

/-- The checks of model `k`: its label is none of the earlier models', then its range can
cover something. -/
def modelChecks (p : PhysicsParams) (k : Nat) : List (Option PipelineError) :=
  [freshAt p.modelLabels k,
   if (p.ranges.getD k default).isValid then none
   else some (.invalidApplicability (p.models.getD k default).label)]

/-- The checks of the physics, in the order `validate` runs them. -/
def checks (p : PhysicsParams) : List (Option PipelineError) :=
  [if p.models.isEmpty then some .noModels else none] ++
  (List.range p.numModels).flatMap p.modelChecks ++
  [match p.maxStep with
   | some step => if step > 0.0 then none else some (.invalidMaxStep step)
   | none => none] ++
  p.energyLoss.map fun (q, v) => if v.isFinite && v ≥ 0.0 then none else some (.invalidEnergyLoss q v)

theorem checkModels_loop (p : PhysicsParams)
    {step : Except PipelineError (List String) → Nat → Except PipelineError (List String)}
    (herror : ∀ e i, step (.error e) i = .error e)
    (hok : ∀ labels i, step (.ok labels) i =
      if labels.contains (p.models.getD i default).label then
        .error (.duplicateLabel (p.models.getD i default).label)
      else if !(p.ranges.getD i default).isValid then
        .error (.invalidApplicability (p.models.getD i default).label)
      else .ok (labels ++ [(p.models.getD i default).label]))
    {k : Nat} (hk : k ≤ p.numModels) :
    (List.range k).foldl step (.ok []) =
      (firstFailure ((List.range k).flatMap p.modelChecks)).map fun _ => p.modelLabels.take k := by
  induction k with
  | zero => rfl
  | succ k ih =>
    have hk' : k < p.models.size := hk
    rw [List.range_succ, List.foldl_append, ih (Nat.le_of_succ_le hk), List.flatMap_append,
      firstFailure_append]
    have hlabel : p.modelLabels[k]? = some (p.models.getD k default).label := by
      simp [modelLabels, hk', Array.getD]
    have htake : p.modelLabels.take (k + 1) =
        p.modelLabels.take k ++ [(p.models.getD k default).label] := by
      rw [List.take_add_one, hlabel, Option.toList_some]
    cases firstFailure ((List.range k).flatMap p.modelChecks) with
    | error e => simp only [Except.map, List.foldl_cons, List.foldl_nil, herror]; rfl
    | ok u =>
      simp only [Except.map, List.foldl_cons, List.foldl_nil, Except.bind, List.flatMap_singleton,
        modelChecks, freshAt, hlabel, htake, hok]
      by_cases hdup : (p.modelLabels.take k).contains (p.models.getD k default).label
      · simp only [hdup, if_true, firstFailure_some]
      · by_cases hvalid : (p.ranges.getD k default).isValid
        · simp only [hdup, hvalid, Bool.false_eq_true, if_false, if_true, Bool.not_true,
            firstFailure_none, firstFailure_nil]
        · simp only [hdup, hvalid, Bool.false_eq_true, if_false, Bool.not_false, if_true,
            firstFailure_none, firstFailure_some]

theorem checkModels_eq_firstFailure (p : PhysicsParams) :
    p.checkModels = firstFailure ((List.range p.numModels).flatMap p.modelChecks) := by
  unfold checkModels
  dsimp only
  rw [p.checkModels_loop _ _ (Nat.le_refl _)]
  · cases firstFailure ((List.range p.numModels).flatMap p.modelChecks) <;> rfl
  · intro e i
    rfl
  · intro labels i
    rfl

theorem lossCheck_eq_firstFailure (p : PhysicsParams) :
    validate.lossCheck p = firstFailure (p.energyLoss.map fun (q, v) =>
      if v.isFinite && v ≥ 0.0 then none else some (.invalidEnergyLoss q v)) := by
  unfold validate.lossCheck
  generalize p.energyLoss = table
  induction table with
  | nil => rfl
  | cons entry table ih =>
    obtain ⟨q, v⟩ := entry
    simp only [List.find?_cons, List.map_cons]
    by_cases hok : (v.isFinite && v ≥ 0.0) = true
    · simp only [hok, Bool.not_true, if_true, firstFailure_none]
      exact ih
    · simp only [Bool.not_eq_true] at hok
      simp only [hok, Bool.not_false, Bool.false_eq_true, if_false, firstFailure_some]

theorem validate_eq_firstFailure (p : PhysicsParams) : p.validate = firstFailure p.checks := by
  unfold validate checks
  rw [List.append_assoc, List.append_assoc, firstFailure_append, firstFailure_append,
    firstFailure_append, ← checkModels_eq_firstFailure, ← lossCheck_eq_firstFailure]
  by_cases hempty : p.models.isEmpty
  · simp [hempty, Except.bind]
  · simp only [hempty, Bool.false_eq_true, if_false, firstFailure_none, firstFailure_nil]
    cases p.checkModels with
    | error e => rfl
    | ok u =>
      cases hstep : p.maxStep with
      | none => rfl
      | some step =>
        by_cases hpos : step > 0.0 <;> simp [hpos, Except.bind]

end PhysicsParams

/-! ## The pipeline -/

namespace Pipeline

/-- The checks of a list of actions against the physics, in the order `build` runs them. -/
def checks (actions : List Action) (physics : PhysicsParams) : List (Option PipelineError) :=
  freshChecks (actions.map (·.label)) ++
  [if actions.any (·.stage == .alongStep) then none else some .missingAlongStep] ++
  physics.checks ++
  physics.modelLabels.map fun l =>
    if (actions.map (·.label)).contains l then some (.duplicateLabel l) else none

end Pipeline

/-- `checkActions` reports the first failing check of the pipeline. -/
theorem checkActions_eq_firstFailure (actions : List Action) (physics : PhysicsParams) :
    checkActions actions physics = firstFailure (Pipeline.checks actions physics) := by
  unfold checkActions Pipeline.checks
  dsimp only
  rw [List.append_assoc, List.append_assoc, firstFailure_append, firstFailure_append,
    firstFailure_append, ← firstRepeat_nil_eq_firstFailure,
    ← PhysicsParams.validate_eq_firstFailure, PhysicsParams.modelLabels, List.map_map]
  cases firstRepeat [] (actions.map (·.label)) with
  | some l => rfl
  | none =>
    by_cases halong : actions.any (·.stage == .alongStep) = true
    · simp only [halong, Bool.not_true, Bool.false_eq_true, if_false, if_true, firstFailure_none,
        firstFailure_nil, Except.bind]
      cases physics.validate with
      | error e => rfl
      | ok u =>
        show _ = firstFailure (physics.models.toList.map fun (m : Model) =>
          if (actions.map (·.label)).contains m.label then some (.duplicateLabel m.label) else none)
        rw [firstFailure_map]
        cases physics.models.toList.find? fun (m : Model) =>
          (actions.map (·.label)).contains m.label <;> rfl
    · simp [halong, Except.bind]

namespace Pipeline

variable (actions : List Action) (physics : PhysicsParams)

theorem build_error_iff (e : PipelineError) :
    build actions physics = .error e ↔ firstFailure (checks actions physics) = .error e := by
  unfold build
  rw [checkActions_eq_firstFailure]
  cases firstFailure (checks actions physics) <;> simp

theorem build_ok_iff :
    (∃ q, build actions physics = .ok q) ↔
      (actions.map (·.label)).Nodup ∧ (∃ a ∈ actions, a.stage = .alongStep) ∧
        physics.validate = .ok () ∧ ∀ l ∈ physics.modelLabels, l ∉ actions.map (·.label) := by
  have hbuild : (∃ q, build actions physics = .ok q) ↔ checkActions actions physics = .ok () := by
    unfold build
    cases checkActions actions physics <;> simp
  have halong : (if actions.any (·.stage == .alongStep) then none
      else some PipelineError.missingAlongStep) = none ↔ ∃ a ∈ actions, a.stage = .alongStep := by
    by_cases h : actions.any (·.stage == .alongStep) <;> simp_all [List.any_eq_true]
  have hcross : ∀ l, (if (actions.map (·.label)).contains l then some (PipelineError.duplicateLabel l)
      else none) = none ↔ l ∉ actions.map (·.label) := by
    intro l
    by_cases h : (actions.map (·.label)).contains l <;> simp_all
  rw [hbuild, checkActions_eq_firstFailure, firstFailure_eq_ok_iff, checks]
  simp only [List.mem_append, List.mem_singleton, or_imp, forall_and, forall_eq,
    List.forall_mem_map, halong, hcross, freshChecks_pass_iff, and_assoc]
  rw [← firstFailure_eq_ok_iff, ← PhysicsParams.validate_eq_firstFailure]

end Pipeline

theorem PhysicsParams.modelLabels_nodup {p : PhysicsParams}
    (h : p.validate = .ok ()) : p.modelLabels.Nodup := by
  rw [PhysicsParams.validate_eq_firstFailure, firstFailure_eq_ok_iff] at h
  rw [← freshChecks_pass_iff]
  intro c hc
  obtain ⟨k, hk, rfl⟩ := List.mem_map.1 hc
  have hlen : p.modelLabels.length = p.numModels := by
    simp [PhysicsParams.modelLabels, PhysicsParams.numModels]
  refine h _ ?_
  simp only [PhysicsParams.checks, List.mem_append, List.mem_flatMap, List.mem_range]
  refine .inl (.inl (.inr ⟨k, hlen ▸ List.mem_range.1 hk, ?_⟩))
  simp [PhysicsParams.modelChecks]

namespace Pipeline

variable {actions : List Action} {physics : PhysicsParams} {q : Pipeline}

theorem filter_stage_filter_stage (l : List Action) (s t : Stage) :
    (l.filter (·.stage == t)).filter (·.stage == s) = if s = t then l.filter (·.stage == t) else [] := by
  rw [List.filter_filter]
  split
  · rename_i hst
    subst hst
    simp
  · rename_i hst
    rw [List.filter_eq_nil_iff]
    intro a _ hboth
    simp only [Bool.and_eq_true, beq_iff_eq] at hboth
    exact hst (hboth.1.symm.trans hboth.2)

theorem build_actions (h : build actions physics = .ok q) :
    q.actions = actions.filter (·.stage == .preStep) ++ actions.filter (·.stage == .alongStep) ++
      actions.filter (·.stage == .postStep) := by
  unfold build at h
  split at h
  · cases h
  · cases h
    simp [Stage.all]

theorem stage_of_build (h : build actions physics = .ok q) (s : Stage) :
    (q.stage s).map Prod.snd = actions.filter (·.stage == s) ∧
      ∀ i a, (i, a) ∈ q.stage s → q.actions[i]? = some a := by
  constructor
  · -- the stage filter on the numbered actions forgets the numbers
    have hstage : (q.stage s).map Prod.snd = q.actions.filter (·.stage == s) := by
      rw [stage, List.map_map]
      change ((q.actions.zipIdx.filter (((· == s) ∘ Action.stage) ∘ Prod.fst)).map Prod.fst) = _
      rw [← List.filter_map, List.zipIdx_map_fst]
      rfl
    rw [hstage, build_actions h]
    rw [List.filter_append, List.filter_append, filter_stage_filter_stage,
      filter_stage_filter_stage, filter_stage_filter_stage]
    cases s <;> simp
  · intro i a hmem
    obtain ⟨⟨a', i'⟩, hfilter, hpair⟩ := List.mem_map.1 hmem
    cases hpair
    exact List.mem_zipIdx_iff_getElem?.1 (List.mem_filter.1 hfilter).1

/-- Building a pipeline runs the checks of `checks` in order, the physics' own in the order
`validate` runs them, and fails with the first that fails; it succeeds exactly when the
action labels are distinct, some action is an along-step, the physics is valid and no model
has an action's label. A built pipeline has distinct labels across its actions and the
models, and runs the pre-step, along-step and post-step actions in that order, each stage
in the order given, with each action of a stage at its place in the pipeline. -/
theorem build_checks_in_order_and_sorts_stably (actions : List Action) (physics : PhysicsParams) :
    physics.validate = firstFailure physics.checks ∧
    (∀ e, build actions physics = .error e ↔ firstFailure (checks actions physics) = .error e) ∧
    ((∃ q, build actions physics = .ok q) ↔
      (actions.map (·.label)).Nodup ∧ (∃ a ∈ actions, a.stage = .alongStep) ∧
        physics.validate = .ok () ∧ ∀ l ∈ physics.modelLabels, l ∉ actions.map (·.label)) ∧
    ∀ q, build actions physics = .ok q →
      (actions.map (·.label) ++ physics.modelLabels).Nodup ∧
      q.labels = (actions.filter (·.stage == .preStep)).map (·.label) ++
        (actions.filter (·.stage == .alongStep)).map (·.label) ++
        (actions.filter (·.stage == .postStep)).map (·.label) ∧
      ∀ s, (q.stage s).map Prod.snd = actions.filter (·.stage == s) ∧
        ∀ i a, (i, a) ∈ q.stage s → q.actions[i]? = some a := by
  refine ⟨physics.validate_eq_firstFailure, build_error_iff actions physics,
    build_ok_iff actions physics, fun q h => ⟨?_, ?_, stage_of_build h⟩⟩
  · obtain ⟨hactions, -, hvalid, hcross⟩ := (build_ok_iff actions physics).1 ⟨q, h⟩
    rw [List.nodup_append]
    exact ⟨hactions, PhysicsParams.modelLabels_nodup hvalid,
      fun a ha b hb hab => hcross b hb (hab ▸ ha)⟩
  · rw [labels, build_actions h, List.map_append, List.map_append]

end Pipeline

end Transport
