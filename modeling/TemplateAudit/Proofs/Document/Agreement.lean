import Mathlib.Data.List.Forall2
import Mathlib.Data.List.Perm.Subperm
import TemplateAudit.Proofs.Document.Walk
import TemplateAudit.Proofs.Number.Order

/-! # Agreement as an equality

Values of each kind agree by a rule of their own. Members find their partners up to ASCII case, and
of several partners the first one is taken, so a value need not agree with itself. Among values
whose names stay apart up to case, agreement is an equivalence: objects of the same size that find
all partners on one side find them on the other one as well.
-/

namespace TemplateAudit

namespace Json

open Text (folded sameIgnoringCase sameIgnoringCase_iff sameIgnoringCase_self sameIgnoringCase_symm
  sameIgnoringCase_congr_right)

variable {a b c v : Json} {as bs members : List (String × Json)} {name key : String}

def Apart (members : List (String × Json)) : Prop :=
  members.Pairwise fun m n => sameIgnoringCase m.1 n.1 = false

instance (members : List (String × Json)) : Decidable (Apart members) :=
  inferInstanceAs (Decidable (members.Pairwise _))

/-- No object in a value has two members whose names agree up to ASCII case. -/
inductive NamesApart : Json → Prop where
  | scalar {v : Json} : v.isScalar = true → NamesApart v
  | array {items : List Json} : (∀ item ∈ items, NamesApart item) → NamesApart (.array items)
  | object {members : List (String × Json)} : Apart members →
      (∀ m ∈ members, NamesApart m.2) → NamesApart (.object members)

theorem namesApart_array {items : List Json} (h : (Json.array items).NamesApart) :
    ∀ item ∈ items, item.NamesApart := by
  cases h with
  | scalar h => exact nomatch h
  | array h => exact h

theorem namesApart_object (h : (Json.object members).NamesApart) :
    Apart members ∧ ∀ m ∈ members, m.2.NamesApart := by
  cases h with
  | scalar h => exact nomatch h
  | object h hm => exact ⟨h, hm⟩

/-! ### Partners -/

theorem exists_of_partner? (h : partner? name members = some v) :
    ∃ m ∈ members, sameIgnoringCase m.1 name = true ∧ m.2 = v := by
  obtain ⟨m, hfind, hv⟩ := Option.map_eq_some_iff.mp h
  have hname := List.find?_some hfind
  exact ⟨m, List.mem_of_find?_eq_some hfind, hname, hv⟩

theorem partner?_congr (h : sameIgnoringCase name key = true) :
    partner? name members = partner? key members := by
  have hfun : (fun m : String × Json => sameIgnoringCase m.1 name) =
      fun m => sameIgnoringCase m.1 key := funext fun m => sameIgnoringCase_congr_right h
  rw [partner?, partner?, hfun]

theorem find?_of_mem (ha : Apart members) {m : String × Json} (hm : m ∈ members)
    (hname : sameIgnoringCase m.1 name = true) :
    members.find? (fun m => sameIgnoringCase m.1 name) = some m := by
  induction members with
  | nil => exact absurd hm List.not_mem_nil
  | cons head rest ih =>
    obtain ⟨hhead, hrest⟩ := List.pairwise_cons.mp ha
    rw [List.find?_cons]
    rcases List.mem_cons.mp hm with rfl | hm
    · rw [hname]
    · have hne : sameIgnoringCase head.1 name = false := by
        rw [← sameIgnoringCase_congr_right hname]
        exact hhead m hm
      rw [hne]
      exact ih hrest hm

theorem partner?_of_mem (ha : Apart members) {m : String × Json} (hm : m ∈ members)
    (hname : sameIgnoringCase m.1 name = true) : partner? name members = some m.2 := by
  rw [partner?, find?_of_mem ha hm hname, Option.map_some]

/-! ### Agreement by kinds -/

theorem itemsAgree_iff {items others : List Json} : itemsAgree items others = true ↔
    List.Forall₂ (fun a b => a.agrees b = true) items others := by
  induction items generalizing others with
  | nil => cases others <;> simp [itemsAgree]
  | cons item items ih => cases others <;> simp [itemsAgree, ih]

theorem membersAgree_iff : membersAgree as bs = true ↔
    ∀ m ∈ as, ∃ other, partner? m.1 bs = some other ∧ m.2.agrees other = true := by
  induction as with
  | nil => simp [membersAgree]
  | cons m rest ih =>
    rw [membersAgree, Bool.and_eq_true, ih, List.forall_mem_cons]
    cases partner? m.1 bs <;> simp

theorem agrees_null_iff : Json.null.agrees b = true ↔ b = .null := by
  cases b <;> simp [agrees]

theorem agrees_bool_iff {p : Bool} : (Json.bool p).agrees b = true ↔ b = .bool p := by
  cases b <;> simp [agrees, eq_comm]

theorem agrees_number_iff {m : Number} : (Json.number m).agrees b = true ↔
    ∃ n, b = .number n ∧ m.compare n = .eq := by
  cases b with
  | number n => simp [Number.agrees_number]
  | _ => simp [agrees]

theorem agrees_string_iff {s : String} : (Json.string s).agrees b = true ↔
    ∃ t, b = .string t ∧ Text.lowercase s = Text.lowercase t := by
  cases b <;> simp [agrees, textsAgree]

theorem agrees_array_iff {items : List Json} : (Json.array items).agrees b = true ↔
    ∃ others, b = .array others ∧ List.Forall₂ (fun a b => a.agrees b = true) items others := by
  cases b <;> simp [agrees, itemsAgree_iff]

theorem agrees_object_iff : (Json.object as).agrees b = true ↔
    ∃ bs, b = .object bs ∧ as.length = bs.length ∧
      ∀ m ∈ as, ∃ other, partner? m.1 bs = some other ∧ m.2.agrees other = true := by
  cases b <;> simp [agrees, membersAgree_iff]

/-! ### The laws of an equality -/

theorem agrees_self_of_isScalar (h : v.isScalar = true) : v.agrees v = true := by
  cases v with
  | null => exact agrees_null_iff.mpr rfl
  | bool p => exact agrees_bool_iff.mpr rfl
  | number n => exact agrees_number_iff.mpr ⟨n, rfl, Std.ReflCmp.compare_self⟩
  | string s => exact agrees_string_iff.mpr ⟨s, rfl, rfl⟩
  | array items => exact nomatch h
  | object members => exact nomatch h

theorem agrees_symm_of_isScalar (h : a.isScalar = true) (hab : a.agrees b = true) :
    b.agrees a = true := by
  cases a with
  | null =>
    obtain rfl := agrees_null_iff.mp hab
    exact hab
  | bool p =>
    obtain rfl := agrees_bool_iff.mp hab
    exact hab
  | number m =>
    obtain ⟨n, rfl, heq⟩ := agrees_number_iff.mp hab
    exact agrees_number_iff.mpr ⟨m, rfl, Std.OrientedCmp.eq_symm heq⟩
  | string s =>
    obtain ⟨t, rfl, heq⟩ := agrees_string_iff.mp hab
    exact agrees_string_iff.mpr ⟨s, rfl, heq.symm⟩
  | array items => exact nomatch h
  | object members => exact nomatch h

theorem agrees_trans_of_isScalar (h : a.isScalar = true) (hab : a.agrees b = true)
    (hbc : b.agrees c = true) : a.agrees c = true := by
  cases a with
  | null =>
    obtain rfl := agrees_null_iff.mp hab
    exact hbc
  | bool p =>
    obtain rfl := agrees_bool_iff.mp hab
    exact hbc
  | number m =>
    obtain ⟨n, rfl, heq⟩ := agrees_number_iff.mp hab
    obtain ⟨k, rfl, hnext⟩ := agrees_number_iff.mp hbc
    exact agrees_number_iff.mpr ⟨k, rfl, Std.TransCmp.eq_trans heq hnext⟩
  | string s =>
    obtain ⟨t, rfl, heq⟩ := agrees_string_iff.mp hab
    obtain ⟨u, rfl, hnext⟩ := agrees_string_iff.mp hbc
    exact agrees_string_iff.mpr ⟨u, rfl, heq.trans hnext⟩
  | array items => exact nomatch h
  | object members => exact nomatch h

theorem agrees_self (h : v.NamesApart) : v.agrees v = true := by
  induction v using descend with
  | scalar v hv => exact agrees_self_of_isScalar hv
  | array items ih =>
    have hitems := namesApart_array h
    refine agrees_array_iff.mpr ⟨items, rfl, List.forall₂_same.mpr fun item hmem => ?_⟩
    exact ih item hmem (hitems item hmem)
  | object members ih =>
    obtain ⟨hapart, hmembers⟩ := namesApart_object h
    refine agrees_object_iff.mpr ⟨members, rfl, rfl, fun m hm => ⟨m.2, ?_, ?_⟩⟩
    · exact partner?_of_mem hapart hm (sameIgnoringCase_self m.1)
    · exact ih m hm (hmembers m hm)

/-- If members with names that stay apart all have partners among as many others, then their
names are the names of all others. -/
theorem exists_same_of_mem (has : Apart as) (hlength : as.length = bs.length)
    (h : ∀ m ∈ as, (partner? m.1 bs).isSome = true) {n : String × Json} (hn : n ∈ bs) :
    ∃ m ∈ as, sameIgnoringCase n.1 m.1 = true := by
  have hnodup : (as.map (folded ·.1)).Nodup := by
    refine List.pairwise_map.mpr (has.imp fun hne heq => ?_)
    exact Bool.false_ne_true (hne.symm.trans (sameIgnoringCase_iff.mpr heq))
  have hsubset : as.map (folded ·.1) ⊆ bs.map (folded ·.1) := by
    intro name hname
    obtain ⟨m, hm, rfl⟩ := List.mem_map.mp hname
    obtain ⟨v, hv⟩ := Option.isSome_iff_exists.mp (h m hm)
    obtain ⟨other, hother, hsame, -⟩ := exists_of_partner? hv
    exact List.mem_map.mpr ⟨other, hother, sameIgnoringCase_iff.mp hsame⟩
  have hperm : (as.map (folded ·.1)).Perm (bs.map (folded ·.1)) :=
    (hnodup.subperm hsubset).perm_of_length_le (by simp [hlength])
  obtain ⟨m, hm, heq⟩ := List.mem_map.mp (hperm.mem_iff.mpr (List.mem_map_of_mem hn))
  exact ⟨m, hm, sameIgnoringCase_iff.mpr heq.symm⟩

theorem agrees_symm (ha : a.NamesApart) (hb : b.NamesApart) (hab : a.agrees b = true) :
    b.agrees a = true := by
  induction a using descend generalizing b with
  | scalar a hscalar => exact agrees_symm_of_isScalar hscalar hab
  | array items ih =>
    obtain ⟨others, rfl, hall⟩ := agrees_array_iff.mp hab
    have hitems := namesApart_array ha
    have hothers := namesApart_array hb
    obtain ⟨hlength, hall⟩ := List.forall₂_iff_get.mp hall
    refine agrees_array_iff.mpr ⟨items, rfl, List.forall₂_iff_get.mpr ⟨hlength.symm, ?_⟩⟩
    intro i hi hi'
    exact ih _ (List.get_mem _ _) (hitems _ (List.get_mem _ _)) (hothers _ (List.get_mem _ _))
      (hall i hi' hi)
  | object as ih =>
    obtain ⟨bs, rfl, hlength, hall⟩ := agrees_object_iff.mp hab
    obtain ⟨hasApart, has⟩ := namesApart_object ha
    obtain ⟨hbsApart, hbs⟩ := namesApart_object hb
    refine agrees_object_iff.mpr ⟨as, rfl, hlength.symm, fun n hn => ?_⟩
    obtain ⟨m, hm, hname⟩ := exists_same_of_mem hasApart hlength
      (fun m hm => by
        obtain ⟨other, hother, -⟩ := hall m hm
        rw [hother]
        rfl) hn
    -- The partner of the member that was found is the member from which the search began.
    obtain ⟨other, hother, hagrees⟩ := hall m hm
    rw [partner?_of_mem hbsApart hn hname] at hother
    obtain rfl := Option.some.inj hother
    exact ⟨m.2, partner?_of_mem hasApart hm (sameIgnoringCase_symm hname),
      ih m hm (has m hm) (hbs n hn) hagrees⟩

theorem agrees_trans (hab : a.agrees b = true) (hbc : b.agrees c = true) : a.agrees c = true := by
  induction a using descend generalizing b c with
  | scalar a hscalar => exact agrees_trans_of_isScalar hscalar hab hbc
  | array items ih =>
    obtain ⟨others, rfl, hall⟩ := agrees_array_iff.mp hab
    obtain ⟨thirds, rfl, hnext⟩ := agrees_array_iff.mp hbc
    obtain ⟨hlength, hall⟩ := List.forall₂_iff_get.mp hall
    obtain ⟨hlength', hnext⟩ := List.forall₂_iff_get.mp hnext
    refine agrees_array_iff.mpr ⟨thirds, rfl, List.forall₂_iff_get.mpr
      ⟨hlength.trans hlength', fun i hi hi' => ?_⟩⟩
    exact ih _ (List.get_mem _ _) (hall i hi (hlength ▸ hi)) (hnext i (hlength ▸ hi) hi')
  | object as ih =>
    obtain ⟨bs, rfl, hlength, hall⟩ := agrees_object_iff.mp hab
    obtain ⟨cs, rfl, hlength', hnext⟩ := agrees_object_iff.mp hbc
    refine agrees_object_iff.mpr ⟨cs, rfl, hlength.trans hlength', fun m hm => ?_⟩
    obtain ⟨other, hother, hagrees⟩ := hall m hm
    obtain ⟨n, hn, hname, rfl⟩ := exists_of_partner? hother
    obtain ⟨third, hthird, hagrees'⟩ := hnext n hn
    rw [partner?_congr hname] at hthird
    exact ⟨third, hthird, ih m hm hagrees hagrees'⟩

/-- Agreement is an equivalence among the values whose names stay apart up to ASCII case. -/
theorem agrees_equivalence :
    Equivalence fun a b : {v : Json // v.NamesApart} => a.1.agrees b.1 = true where
  refl v := agrees_self v.2
  symm := fun {a b} h => agrees_symm a.2 b.2 h
  trans := agrees_trans

/-- A value whose names stay apart agrees with a copy of itself, by every operator that tests for
agreement. -/
theorem agrees_copy (h : v.NamesApart) : v.agrees v = true ∧
    (Operator.equals v).holds (some v) = true ∧ (Operator.notEquals v).holds (some v) = false ∧
    (∀ candidates, v ∈ candidates → (Operator.oneOf candidates).holds (some v) = true) ∧
    ∀ items, v ∈ items → (Operator.contains v).holds (some (.array items)) = true := by
  have hself := agrees_self h
  refine ⟨hself, ?_, ?_, fun candidates hmem => ?_, fun items hmem => ?_⟩
  · rw [Operator.holds, Option.any_some, hself]
  · rw [Operator.holds, Option.any_some, hself]
    rfl
  · rw [Operator.holds, Option.any_some, List.any_eq_true]
    exact ⟨v, hmem, hself⟩
  · rw [Operator.holds, Option.any_some, contains, List.any_eq_true]
    exact ⟨v, hmem, hself⟩

/-- An object with an array and an object in it agrees with its copies. -/
theorem agrees_copy_nested :
    let tags : Json := .object [("Owner", .string "Ops"), ("count", .number (.ofNat 2))]
    let v : Json := .object [("SKU", .array [.null, tags]), ("tags", tags)]
    v.NamesApart ∧ v.agrees v = true ∧ (Operator.oneOf [tags, v]).holds (some v) = true ∧
      (Operator.contains v).holds (some (.array [tags, v])) = true := by
  intro tags v
  have htags : tags.NamesApart := .object (by decide)
    (List.forall_mem_cons.mpr ⟨.scalar rfl, List.forall_mem_singleton.mpr (.scalar rfl)⟩)
  have hitems : (Json.array [.null, tags]).NamesApart :=
    .array (List.forall_mem_cons.mpr ⟨.scalar rfl, List.forall_mem_singleton.mpr htags⟩)
  have hv : v.NamesApart := .object (by decide)
    (List.forall_mem_cons.mpr ⟨hitems, List.forall_mem_singleton.mpr htags⟩)
  obtain ⟨hself, -, -, honeOf, hcontains⟩ := agrees_copy hv
  exact ⟨hv, hself, honeOf _ (by simp), hcontains _ (by simp)⟩

/-- Of two members whose names agree up to case, both have the first one as their partner. -/
theorem not_agrees_copy : ¬ ∀ v : Json, v.agrees v = true := by
  intro h
  have hv := h (.object [("A", .number (.ofNat 2)), ("a", .number (.ofNat 1))])
  exact absurd hv (by decide +kernel)

end Json

end TemplateAudit
