import TemplateAudit.Proofs.Expression.Judged
import TemplateAudit.Proofs.Scope.Exact
import TemplateAudit.Proofs.Scope.Search

/-! # Scopes in document order

Each step of a path adds one step to the locations that it leads from, so all scopes of a level lie
at one depth and stay in the order of locations. A search for resources goes from parents to
children and along each array, which is the order of locations too. A path from found resources of
different depths may lose the order. But it adds the same number of steps to each of their
locations, so these can be told from what it leads to, and no scope is judged twice by one leaf.
-/

namespace TemplateAudit

theorem Step.compare_self (step : Step) : step.compare step = .eq := by
  cases step with
  | key name => exact Std.ReflOrd.compare_self
  | index position => exact Std.ReflOrd.compare_self

namespace Location

variable {steps others : List Step} {a b : Location}

theorem compareSteps_append_left (steps rest more : List Step) :
    compareSteps (steps ++ rest) (steps ++ more) = compareSteps rest more := by
  induction steps with
  | nil => rfl
  | cons step steps ih =>
    rw [List.cons_append, List.cons_append, compareSteps, step.compare_self, Ordering.eq_then, ih]

theorem ne_of_compare_eq_lt (h : a.compare b = .lt) : a ≠ b := by
  rintro rfl
  have hself := compareSteps_append_left a.steps [] []
  rw [List.append_nil] at hself
  exact absurd (h.symm.trans hself) (by decide)

theorem compareSteps_append_of_lt (hlength : steps.length = others.length)
    (h : compareSteps steps others = .lt) (rest more : List Step) :
    compareSteps (steps ++ rest) (others ++ more) = .lt := by
  induction steps generalizing others with
  | nil =>
    obtain rfl : others = [] := List.length_eq_zero_iff.mp hlength.symm
    nomatch h
  | cons step steps ih =>
    cases others with
    | nil => nomatch hlength
    | cons other others =>
      rw [compareSteps] at h
      rw [List.cons_append, List.cons_append, compareSteps]
      cases hstep : step.compare other with
      | lt => rfl
      | gt =>
        rw [hstep] at h
        nomatch h
      | eq =>
        rw [hstep, Ordering.eq_then] at h
        exact ih (by simpa using hlength) h

theorem compareSteps_index_of_lt {i j : Nat} (h : i < j) (rest more : List Step) :
    compareSteps (steps ++ .index i :: rest) (steps ++ .index j :: more) = .lt := by
  have hcompare : (Step.index i).compare (.index j) = .lt := Nat.compare_eq_lt.mpr h
  rw [compareSteps_append_left, compareSteps, hcompare]
  rfl

theorem Precedes.compare_eq_lt (h : Precedes a b) : a.compare b = .lt := by
  cases h with
  | above hbelow =>
    obtain ⟨rest, hne, hrest⟩ := isBelow_iff.mp hbelow
    obtain ⟨step, rest, rfl⟩ := List.exists_cons_of_ne_nil hne
    have hleft := compareSteps_append_left a.steps [] (step :: rest)
    rwa [List.append_nil, ← hrest] at hleft
  | along hlt ha hb =>
    obtain ⟨rest, ha⟩ := ha
    obtain ⟨more, hb⟩ := hb
    rw [steps_index, List.append_assoc, List.singleton_append] at ha hb
    rw [compare, ← ha, ← hb]
    exact compareSteps_index_of_lt hlt rest more

end Location

namespace Scope

variable {s t next found : Scope} {segment : Segment} {segments : List Segment} {p : Path}
  {scopes : List Scope} {depth : Nat} {target : String}

/-- The scopes come in the order of their locations, and no two have the same one. -/
def Increasing (scopes : List Scope) : Prop :=
  scopes.Pairwise fun a b => a.location.compare b.location = .lt

/-! ### One step of a path -/

theorem increasing_elementsFrom (l : Location) (position : Nat) (items : List Json) :
    Increasing (elementsFrom l position items) := by
  induction items generalizing position with
  | nil => exact .nil
  | cons item rest ih =>
    refine List.pairwise_cons.mpr ⟨?_, ih (position + 1)⟩
    intro later hlater
    obtain ⟨i, hl, -⟩ := mem_elementsFrom hlater
    rw [hl]
    exact Location.compareSteps_index_of_lt (by omega) [] []

theorem increasing_children (hs : s.Ordered) : Increasing s.children := by
  unfold Scope.children
  split
  · exact increasing_elementsFrom _ 0 _
  · next members hv =>
    refine List.pairwise_map.mpr ((List.pairwise_map.mp (hs _ hv).names).imp ?_)
    intro m n hlt
    have hname : (Step.key m.1).compare (.key n.1) = .lt := compareOfLessAndEq_eq_lt.mpr hlt
    change Location.compareSteps (s.location.steps ++ [_]) (s.location.steps ++ [_]) = .lt
    rw [Location.compareSteps_append_left, Location.compareSteps, hname]
    rfl
  · exact .nil

theorem increasing_step (hs : s.Ordered) (segment : Segment) : Increasing (s.step segment) := by
  cases segment with
  | property name => exact List.pairwise_singleton _ _
  | index position => exact List.pairwise_singleton _ _
  | wildcard => exact increasing_children hs

/-! ### Levels of a path -/

structure IsLevel (depth : Nat) (scopes : List Scope) : Prop where
  ordered : ∀ s ∈ scopes, s.Ordered
  depth_eq : ∀ s ∈ scopes, s.location.steps.length = depth
  increasing : Increasing scopes

theorem IsLevel.step (h : IsLevel depth scopes) (segment : Segment) :
    IsLevel (depth + 1) (scopes.flatMap fun s => s.step segment) := by
  constructor
  · intro next hn
    obtain ⟨s, hs, hn⟩ := List.mem_flatMap.mp hn
    obtain ⟨step, hstep⟩ := exists_takes_of_mem_step (h.ordered s hs) hn
    exact (h.ordered s hs).takes hstep
  · intro next hn
    obtain ⟨s, hs, hn⟩ := List.mem_flatMap.mp hn
    obtain ⟨step, hstep⟩ := exists_takes_of_mem_step (h.ordered s hs) hn
    simp [hstep.steps_eq, h.depth_eq s hs]
  · refine List.pairwise_flatMap.mpr ⟨fun s hs => increasing_step (h.ordered s hs) segment, ?_⟩
    refine h.increasing.imp_of_mem fun {s t} hs ht hlt next hn other ho => ?_
    obtain ⟨step, hstep⟩ := exists_takes_of_mem_step (h.ordered s hs) hn
    obtain ⟨step', hstep'⟩ := exists_takes_of_mem_step (h.ordered t ht) ho
    rw [Location.compare, hstep.steps_eq, hstep'.steps_eq]
    exact Location.compareSteps_append_of_lt ((h.depth_eq s hs).trans (h.depth_eq t ht).symm) hlt
      _ _

theorem IsLevel.follow (h : IsLevel depth scopes) (segments : List Segment) :
    IsLevel (depth + segments.length) (Scope.follow scopes segments) := by
  induction segments generalizing depth scopes with
  | nil => exact h
  | cons segment rest ih =>
    have hnext := ih (h.step segment)
    rwa [Nat.add_right_comm] at hnext

theorem IsLevel.resolve (hs : s.Ordered) (p : Path) :
    IsLevel (s.location.steps.length + p.segments.length) (s.resolve p) := by
  refine IsLevel.follow ⟨?_, ?_, List.pairwise_singleton _ _⟩ p.segments
  · exact List.forall_mem_singleton.mpr hs
  · exact List.forall_mem_singleton.mpr rfl

theorem length_follow (h : .wildcard ∉ segments) :
    (follow scopes segments).length = scopes.length := by
  induction segments generalizing scopes with
  | nil => rfl
  | cons segment rest ih =>
    have hone : ∀ s : Scope, (s.step segment).length = 1 := by
      intro s
      cases segment with
      | property name => rfl
      | index position => rfl
      | wildcard => exact absurd List.mem_cons_self h
    rw [follow, ih (List.not_mem_of_not_mem_cons h), List.length_flatMap]
    simp [hone]

theorem exists_prefix_of_mem_follow (h : ∀ s ∈ scopes, s.Ordered)
    (hn : next ∈ follow scopes segments) :
    ∃ s ∈ scopes, s.location.steps <+: next.location.steps := by
  induction segments generalizing scopes with
  | nil => exact ⟨next, hn, List.prefix_refl _⟩
  | cons segment rest ih =>
    have hlevel : ∀ t ∈ scopes.flatMap (fun s => s.step segment),
        t.Ordered ∧ ∃ s ∈ scopes, s.location.steps <+: t.location.steps := by
      intro t ht
      obtain ⟨s, hs, ht⟩ := List.mem_flatMap.mp ht
      obtain ⟨step, hstep⟩ := exists_takes_of_mem_step (h s hs) ht
      exact ⟨(h s hs).takes hstep, s, hs, hstep.steps_eq ▸ List.prefix_append _ _⟩
    obtain ⟨t, ht, hbelow⟩ := ih (fun t ht => (hlevel t ht).1) hn
    obtain ⟨s, hs, habove⟩ := (hlevel t ht).2
    exact ⟨s, hs, habove.trans hbelow⟩

theorem take_of_mem_resolve (hs : s.Ordered) (ht : t ∈ s.resolve p) :
    t.location.steps.take (t.location.steps.length - p.segments.length) = s.location.steps := by
  obtain ⟨start, hstart, hbelow⟩ :=
    exists_prefix_of_mem_follow (List.forall_mem_singleton.mpr hs) ht
  obtain rfl := List.mem_singleton.mp hstart
  rw [(IsLevel.resolve hs p).depth_eq t ht, Nat.add_sub_cancel]
  exact (List.prefix_iff_eq_take.mp hbelow).symm

/-! ### Resources and what lies below them -/

theorem increasing_resourcesOfType (s : Scope) (target : String) :
    Increasing (s.resourcesOfType target) :=
  (pairwise_resourcesOfType s target).imp Location.Precedes.compare_eq_lt

theorem Ordered.resourcesOfType (hs : s.Ordered) (hf : found ∈ s.resourcesOfType target) :
    found.Ordered := by
  obtain ⟨v, hv, item, full, hitem, -, hchain⟩ := mem_resourcesOfType_iff.mp hf
  obtain ⟨rest, -, hat⟩ := at?_of_chain hchain.to_reflTransGen
  intro value hvalue
  obtain rfl := Option.some.inj (hitem.symm.trans hvalue)
  exact Json.ordered_of_at? (hs v hv) hat

/-- A path from several scopes with different locations leads to different locations. -/
theorem nodup_flatMap_resolve (hscopes : ∀ s ∈ scopes, s.Ordered)
    (h : (scopes.map (·.location)).Nodup) (p : Path) :
    ((scopes.flatMap fun s => s.resolve p).map (·.location)).Nodup := by
  refine List.pairwise_map.mpr (List.pairwise_flatMap.mpr ⟨?_, ?_⟩)
  · intro s hs
    exact (IsLevel.resolve (hscopes s hs) p).increasing.imp Location.ne_of_compare_eq_lt
  · refine (List.pairwise_map.mp h).imp_of_mem ?_
    intro s t hs ht hne next hn other ho heq
    have hstart := take_of_mem_resolve (hscopes s hs) hn
    rw [heq, take_of_mem_resolve (hscopes t ht) ho] at hstart
    exact hne (congrArg Location.mk hstart.symm)

end Scope

namespace Expression

variable {s t : Scope} {lines : LineIndex} {e : Expression}

theorem ordered_of_mem_survivors (e : Expression) (hs : s.Ordered)
    (ht : t ∈ e.survivors (Template.resolver lines) s) : t.Ordered := by
  refine of_mem_survivors ?_ ?_ hs e ht
  · exact fun s target hs t ht => hs.resourcesOfType ht
  · exact fun s p hs t ht => (Scope.IsLevel.resolve hs p).ordered t ht

theorem nodup_survivors (hs : s.Ordered) (e : Expression) :
    ((e.survivors (Template.resolver lines) s).map (·.location)).Nodup := by
  cases e with
  | narrowed resourceType path condition b =>
    let byType := narrowByType (Template.resolver lines) resourceType s
    have htype : (∀ t ∈ byType, t.Ordered) ∧ (byType.map (·.location)).Nodup := by
      cases resourceType with
      | none => exact ⟨List.forall_mem_singleton.mpr hs, List.pairwise_singleton _ _⟩
      | some target =>
        exact ⟨fun t ht => hs.resourcesOfType ht, s.nodup_resourcesOfType target⟩
    have hpath : ((narrowByPath (Template.resolver lines) path byType).map (·.location)).Nodup := by
      cases path with
      | none => exact htype.2
      | some p => exact Scope.nodup_flatMap_resolve htype.1 htype.2 p
    exact hpath.sublist (List.filter_sublist.map _)

/-- No leaf of an evaluation judges two scopes with one location. -/
theorem nodup_of_mem_judged (hs : s.Ordered) (e : Expression) {j : Operator × List Scope}
    (hj : j ∈ e.judged (Template.resolver lines) s) : (j.2.map (·.location)).Nodup := by
  have hkeeps : ∀ (e : Expression) (s : Scope), s.Ordered →
      ∀ t ∈ e.survivors (Template.resolver lines) s, t.Ordered :=
    fun e s hs t ht => ordered_of_mem_survivors e hs ht
  obtain ⟨inner, t, ht, heq⟩ := exists_survivors_of_mem_judged hkeeps e hs hj
  rw [heq]
  exact nodup_survivors ht inner

end Expression

namespace Scope

/-- From a scope of a document, a path and a resource type lead to scopes in the order of their
locations, a path without wildcards to one. The scopes that an expression evaluates at last have
different locations, and so have those that each leaf of its evaluation has the results of. -/
theorem increasing_and_distinct {s : Scope} (lines : LineIndex) (hs : s.Ordered) :
    (∀ p : Path, Increasing (s.resolve p) ∧
      (.wildcard ∉ p.segments → (s.resolve p).length = 1)) ∧
    (∀ target, Increasing (s.resourcesOfType target)) ∧
    ∀ e : Expression, ((e.survivors (Template.resolver lines) s).map (·.location)).Nodup ∧
      ∀ results ∈ (e.evaluate (Template.resolver lines) s).leaves,
        ∃ j ∈ e.judged (Template.resolver lines) s, (j.2.map (·.location)).Nodup ∧
          results = j.2.map fun t => ⟨j.1.holds t.value, lines.lineOf t.location⟩ := by
  refine ⟨fun p => ⟨(IsLevel.resolve hs p).increasing, ?_⟩, s.increasing_resourcesOfType,
    fun e => ⟨Expression.nodup_survivors hs e, ?_⟩⟩
  · intro hwildcard
    exact length_follow hwildcard
  · intro results hresults
    rw [Expression.leaves_evaluate, List.mem_map] at hresults
    obtain ⟨j, hj, rfl⟩ := hresults
    exact ⟨j, hj, Expression.nodup_of_mem_judged hs e hj, rfl⟩

/-- A resource and one inside it have the same type. A path leads from the outer one to a place that
comes after the place below the inner one, but the two are different. -/
theorem increasing_and_distinct_nested :
    let inner : Json := .object [("type", .string "T/u"), ("z", .null)]
    let outer : Json := .object
      [("resources", .array [inner]), ("type", .string "t/U"), ("z", .bool true)]
    let document : Json := .object [("resources", .array [outer])]
    let e : Expression :=
      .narrowed (some "T/U") (some ⟨"z", [.property "z"]⟩) none (.operator (.isPresent true))
    let locations : List Location := [⟨[.key "resources", .index 0, .key "z"]⟩,
      ⟨[.key "resources", .index 0, .key "resources", .index 0, .key "z"]⟩]
    document.Ordered ∧ (root document).Ordered ∧
      (e.survivors (Template.resolver .empty) (root document)).map (·.location) = locations ∧
      locations.Nodup ∧ ¬ locations.Pairwise (fun a b => a.compare b = .lt) := by
  intro inner outer document e locations
  have hinner : inner.Ordered := .object (by decide)
    (List.forall_mem_cons.mpr ⟨.string _, List.forall_mem_singleton.mpr .null⟩)
  have houter : outer.Ordered := .object (by decide)
    (List.forall_mem_cons.mpr ⟨.array (List.forall_mem_singleton.mpr hinner),
      List.forall_mem_cons.mpr ⟨.string _, List.forall_mem_singleton.mpr (.bool true)⟩⟩)
  have hdocument : document.Ordered := .object (by decide)
    (List.forall_mem_singleton.mpr (.array (List.forall_mem_singleton.mpr houter)))
  have hroot : (root document).Ordered := by
    intro v hv
    obtain rfl := Option.some.inj hv
    exact hdocument
  obtain ⟨-, -, hdistinct⟩ := increasing_and_distinct .empty hroot
  have hleft : (e.survivors (Template.resolver .empty) (root document)).map (·.location) =
      locations := by
    dsimp only [e, document, outer, inner, locations]
    rfl
  exact ⟨hdocument, hroot, hleft, hleft ▸ (hdistinct e).1, by decide⟩

end Scope

end TemplateAudit
