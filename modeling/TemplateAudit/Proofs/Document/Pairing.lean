import Mathlib.Data.Fintype.EquivFin
import Mathlib.Data.List.Pairwise
import TemplateAudit.Proofs.Document.Agreement
import TemplateAudit.Proofs.Text.AsciiCase

/-! # Pairs of members

Two objects agree if their members can be paired one to one so that names and values of each pair
agree. Names agree up to ASCII case here, and as text values they agree up to their lower case,
which is coarser. If no two names of an object agree as texts, then the two rules find the same
pairs exactly if names that agree as texts differ in ASCII case only, as ASCII names do. The same
holds of the names that an object contains.
-/

namespace TemplateAudit

namespace Json

open Text (sameIgnoringCase sameIgnoringCase_symm sameIgnoringCase_trans IsAscii)

variable {as bs members : List (String × Json)} {a b c name : String}
  {same other : String → String → Bool}

/-! ### Names as text values -/

def namesAgree (a b : String) : Bool := (string a).agrees (string b)

theorem namesAgree_iff : namesAgree a b = true ↔ Text.lowercase a = Text.lowercase b := by
  unfold namesAgree
  simp [agrees_string_iff]

theorem namesAgree_symm (h : namesAgree a b = true) : namesAgree b a = true :=
  namesAgree_iff.mpr (namesAgree_iff.mp h).symm

theorem namesAgree_trans (hab : namesAgree a b = true) (hbc : namesAgree b c = true) :
    namesAgree a c = true :=
  namesAgree_iff.mpr ((namesAgree_iff.mp hab).trans (namesAgree_iff.mp hbc))

theorem namesAgree_of_sameIgnoringCase (h : sameIgnoringCase a b = true) :
    namesAgree a b = true :=
  namesAgree_iff.mpr (Text.lowercase_eq_of_sameIgnoringCase h)

def DifferAsTexts (members : List (String × Json)) : Prop :=
  members.Pairwise fun m n => namesAgree m.1 n.1 = false

instance (members : List (String × Json)) : Decidable (DifferAsTexts members) :=
  inferInstanceAs (Decidable (members.Pairwise _))

theorem DifferAsTexts.apart (h : DifferAsTexts members) : Apart members := by
  apply h.imp
  intro m n hne
  apply Bool.eq_false_iff.mpr
  intro hsame
  exact Bool.false_ne_true (hne.symm.trans (namesAgree_of_sameIgnoringCase hsame))

theorem DifferAsTexts.eq_of_namesAgree (h : DifferAsTexts members) {m n : String × Json}
    (hm : m ∈ members) (hn : n ∈ members) (hnames : namesAgree m.1 n.1 = true) : m = n := by
  have hsymm : Std.Symm fun m n : String × Json => namesAgree m.1 n.1 = false := by
    constructor
    intro m n hne
    exact Bool.eq_false_iff.mpr fun hsame =>
      Bool.false_ne_true (hne.symm.trans (namesAgree_symm hsame))
  by_contra hmn
  exact Bool.false_ne_true ((List.Pairwise.forall h hm hn hmn).symm.trans hnames)

/-- Among these names, those that agree as texts differ in ASCII case only. -/
def OnlyAsciiCase (names others : List String) : Prop :=
  ∀ a ∈ names, ∀ b ∈ others, namesAgree a b = true → sameIgnoringCase a b = true

theorem onlyAsciiCase_of_ascii {names others : List String}
    (h : ∀ a ∈ names ++ others, IsAscii a) : OnlyAsciiCase names others := by
  intro a ha b hb hagree
  apply Text.sameIgnoringCase_of_lowercase_eq
  · exact h a (List.mem_append_left _ ha)
  · exact h b (List.mem_append_right _ hb)
  · exact namesAgree_iff.mp hagree

/-! ### Pairings -/

/-- The members of two objects are paired one to one. The names of each pair are the same by the
given rule, and the values agree. -/
def Paired (same : String → String → Bool) (as bs : List (String × Json)) : Prop :=
  ∃ e : Fin as.length ≃ Fin bs.length, ∀ i,
    same as[i].1 bs[e i].1 = true ∧ as[i].2.agrees bs[e i].2 = true

theorem Paired.imp (h : Paired same as bs)
    (hnames : ∀ m ∈ as, ∀ n ∈ bs, same m.1 n.1 = true → other m.1 n.1 = true) :
    Paired other as bs := by
  obtain ⟨e, he⟩ := h
  refine ⟨e, fun i => ?_⟩
  obtain ⟨hsame, hvalues⟩ := he i
  exact ⟨hnames _ (List.getElem_mem _) _ (List.getElem_mem _) hsame, hvalues⟩

theorem Apart.eq_of_same (h : Apart members) {i j : Fin members.length}
    (hsame : sameIgnoringCase members[i].1 members[j].1 = true) : i = j := by
  have hpairs := List.pairwise_iff_get.mp h
  rcases lt_trichotomy i j with hlt | heq | hlt
  · exact absurd ((hpairs i j hlt).symm.trans hsame) Bool.false_ne_true
  · exact heq
  · exact absurd ((hpairs j i hlt).symm.trans (sameIgnoringCase_symm hsame)) Bool.false_ne_true

theorem exists_position_of_partner? {v : Json} (h : partner? name members = some v) :
    ∃ j : Fin members.length, sameIgnoringCase name members[j].1 = true ∧ members[j].2 = v := by
  obtain ⟨n, hn, hname, rfl⟩ := exists_of_partner? h
  obtain ⟨j, rfl⟩ := List.mem_iff_get.mp hn
  exact ⟨j, sameIgnoringCase_symm hname, rfl⟩

/-- Where the names of each object stay apart, agreement is a pairing up to ASCII case. -/
theorem agrees_object_iff_paired (ha : Apart as) (hb : Apart bs) :
    (object as).agrees (object bs) = true ↔ Paired sameIgnoringCase as bs := by
  constructor
  · intro h
    obtain ⟨_, heq, hlength, hall⟩ := agrees_object_iff.mp h
    obtain rfl := object.inj heq
    have hpartner : ∀ i : Fin as.length, ∃ j : Fin bs.length,
        sameIgnoringCase as[i].1 bs[j].1 = true ∧ as[i].2.agrees bs[j].2 = true := by
      intro i
      obtain ⟨v, hv, hagrees⟩ := hall as[i] (List.getElem_mem _)
      obtain ⟨j, hname, rfl⟩ := exists_position_of_partner? hv
      exact ⟨j, hname, hagrees⟩
    choose f hf using hpartner
    -- Two members with one partner would have names that agree, and there are as many partners.
    have hinjective : Function.Injective f := by
      intro i j hij
      apply ha.eq_of_same
      have hj := (hf j).1
      rw [← hij] at hj
      exact sameIgnoringCase_trans (hf i).1 (sameIgnoringCase_symm hj)
    have hbijective : Function.Bijective f :=
      (Fintype.bijective_iff_injective_and_card f).mpr ⟨hinjective, by simpa using hlength⟩
    exact ⟨Equiv.ofBijective f hbijective, hf⟩
  · rintro ⟨e, he⟩
    refine agrees_object_iff.mpr ⟨bs, rfl, Fin.equiv_iff_eq.mp ⟨e⟩, fun m hm => ?_⟩
    obtain ⟨i, rfl⟩ := List.mem_iff_get.mp hm
    obtain ⟨hname, hagrees⟩ := he i
    exact ⟨bs[e i].2, partner?_of_mem hb (List.getElem_mem _) (sameIgnoringCase_symm hname),
      hagrees⟩

theorem agrees_object_iff_paired_texts (ha : DifferAsTexts as) (hb : DifferAsTexts bs) :
    (object as).agrees (object bs) = true ↔
      Paired namesAgree as bs ∧ OnlyAsciiCase (as.map (·.1)) (bs.map (·.1)) := by
  rw [agrees_object_iff_paired ha.apart hb.apart]
  constructor
  · intro h
    refine ⟨h.imp fun m _ n _ => namesAgree_of_sameIgnoringCase, ?_⟩
    obtain ⟨e, he⟩ := h
    unfold OnlyAsciiCase
    simp only [List.forall_mem_map]
    intro m hm n hn hagree
    obtain ⟨i, rfl⟩ := List.mem_iff_get.mp hm
    -- The member that was paired is the only one whose name agrees as a text.
    have hpair := (he i).1
    have hpaired : namesAgree bs[e i].1 n.1 = true :=
      namesAgree_trans (namesAgree_symm (namesAgree_of_sameIgnoringCase hpair)) hagree
    rw [← hb.eq_of_namesAgree (List.getElem_mem _) hn hpaired]
    exact hpair
  · rintro ⟨h, hcase⟩
    apply h.imp
    intro m hm n hn
    exact hcase _ (List.mem_map_of_mem hm) _ (List.mem_map_of_mem hn)

/-! ### Contained names -/

theorem holds_contains_object_iff :
    (Operator.contains (string name)).holds (some (object members)) = true ↔
      ∃ m ∈ members, sameIgnoringCase m.1 name = true := by
  rw [Operator.holds, Option.any_some, contains, List.any_eq_true]

theorem holds_contains_object_iff_texts (h : DifferAsTexts members) :
    (Operator.contains (string name)).holds (some (object members)) = true ↔
      (∃ m ∈ members, namesAgree m.1 name = true) ∧
        OnlyAsciiCase (members.map (·.1)) [name] := by
  rw [holds_contains_object_iff]
  unfold OnlyAsciiCase
  simp only [List.forall_mem_map, List.forall_mem_singleton]
  constructor
  · rintro ⟨m, hm, hsame⟩
    have hagree := namesAgree_of_sameIgnoringCase hsame
    refine ⟨⟨m, hm, hagree⟩, fun n hn hother => ?_⟩
    obtain rfl := h.eq_of_namesAgree hm hn (namesAgree_trans hagree (namesAgree_symm hother))
    exact hsame
  · rintro ⟨⟨m, hm, hagree⟩, hcase⟩
    exact ⟨m, hm, hcase m hm hagree⟩

/-! ### Both rules for names -/

/-- Objects agree if their members are paired up to ASCII case, and they contain the names that
one of theirs agrees with up to ASCII case. Among names that differ as texts this is the rule for
texts, if names that agree as texts differ in ASCII case only, and ASCII names do. -/
theorem agrees_and_contains_by_name (ha : DifferAsTexts as) (hb : DifferAsTexts bs) :
    ((object as).agrees (object bs) = true ↔ Paired sameIgnoringCase as bs) ∧
    ((object as).agrees (object bs) = true ↔
      Paired namesAgree as bs ∧ OnlyAsciiCase (as.map (·.1)) (bs.map (·.1))) ∧
    (∀ name, ((Operator.contains (string name)).holds (some (object as)) = true ↔
      ∃ m ∈ as, sameIgnoringCase m.1 name = true)) ∧
    (∀ name, ((Operator.contains (string name)).holds (some (object as)) = true ↔
      (∃ m ∈ as, namesAgree m.1 name = true) ∧ OnlyAsciiCase (as.map (·.1)) [name])) ∧
    ∀ names others, (∀ a ∈ names ++ others, IsAscii a) → OnlyAsciiCase names others := by
  refine ⟨agrees_object_iff_paired ha.apart hb.apart, agrees_object_iff_paired_texts ha hb, ?_, ?_,
    ?_⟩
  · intro name
    exact holds_contains_object_iff
  · intro name
    exact holds_contains_object_iff_texts ha
  · intro names others
    exact onlyAsciiCase_of_ascii

/-- The partners stand in another order, and a capital letter that is not ASCII hides a name. -/
theorem agrees_and_contains_by_name_crossed :
    let as : List (String × Json) := [("B", .bool true), ("a", .null), ("größe", .null)]
    let bs : List (String × Json) := [("A", .null), ("b", .bool true), ("größe", .null)]
    DifferAsTexts as ∧ DifferAsTexts bs ∧ Paired sameIgnoringCase as bs ∧
      Paired namesAgree as bs ∧ (Operator.contains (string "b")).holds (some (object as)) = true ∧
      namesAgree "größe" "GRÖßE" = true ∧
      (Operator.contains (string "GRÖßE")).holds (some (object as)) = false := by
  intro as bs
  have ha : DifferAsTexts as := by decide +kernel
  have hb : DifferAsTexts bs := by decide +kernel
  have hagrees : (object as).agrees (object bs) = true := by decide +kernel
  obtain ⟨hcase, htexts, hcontains, -, -⟩ := agrees_and_contains_by_name ha hb
  have hhidden : ¬ ∃ m ∈ as, sameIgnoringCase m.1 "GRÖßE" = true := by decide +kernel
  have hnames : namesAgree "größe" "GRÖßE" = true := by decide +kernel
  exact ⟨ha, hb, hcase.mp hagrees, (htexts.mp hagrees).1,
    (hcontains "b").mpr ⟨("B", .bool true), by simp [as], by decide +kernel⟩, hnames,
    Bool.eq_false_iff.mpr (mt (hcontains _).mp hhidden)⟩

/-- A capital letter that is not ASCII tells names apart that agree as texts, both in objects that
are compared and in one that is searched. -/
theorem not_agrees_iff_paired_texts :
    (¬ ∀ as bs : List (String × Json), DifferAsTexts as → DifferAsTexts bs →
      ((object as).agrees (object bs) = true ↔ Paired namesAgree as bs)) ∧
    ¬ ∀ (as : List (String × Json)) (name : String), DifferAsTexts as →
      ((Operator.contains (string name)).holds (some (object as)) = true ↔
        ∃ m ∈ as, namesAgree m.1 name = true) := by
  have hnames : namesAgree "Ä" "ä" = true := by decide +kernel
  constructor
  · intro h
    have hpaired : Paired namesAgree [("Ä", .null)] [("ä", .null)] :=
      ⟨Equiv.refl (Fin 1), fun | 0 => ⟨hnames, agrees_null_iff.mpr rfl⟩⟩
    have hagrees := (h _ _ (List.pairwise_singleton _ _) (List.pairwise_singleton _ _)).mpr hpaired
    exact absurd hagrees (by decide +kernel)
  · intro h
    have hholds := (h [("Ä", .null)] "ä" (List.pairwise_singleton _ _)).mpr
      ⟨_, List.mem_singleton_self _, hnames⟩
    exact absurd hholds (by decide +kernel)

end Json

end TemplateAudit
