import Arbitration.Proofs.JsonReading
import Mathlib.Data.List.Nodup

/-!
# Canonical texts are faithful

A value has a canonical text if all its numbers are whole and fit 64 bits, and that text is read
back as the value. So two values have the same canonical bytes exactly if they are the same value,
where the order in which an object has its members is no part of the value (`Json.Same`).

The canonical text is looked at as a **compact text of another value**: the one with the members of
every object put in order, first of their keys and then of their keys as they are written
(`Json.arranged`). What is known of compact texts then applies as it is. No key may come twice in an
object: of several members with one key the text could tell one only.
-/

namespace Arbitration

namespace Json

/-! ### Values -/

/-- Induction over a value: what holds of the items of an array holds of the array, and what holds
of the values in an object holds of the object. -/
theorem induct {P : Json → Prop} (null : P null) (bool : ∀ b, P (bool b)) (int : ∀ n, P (int n))
    (real : ∀ x, P (real x)) (str : ∀ s, P (str s))
    (arr : ∀ items, (∀ v ∈ items, P v) → P (arr items))
    (obj : ∀ members, (∀ m ∈ members, P m.2) → P (obj members)) (v : Json) : P v := by
  refine @Json.rec P (fun items => ∀ v ∈ items, P v) (fun members => ∀ m ∈ members, P m.2)
    (fun m => P m.2) null bool int real str arr obj ?_ ?_ ?_ ?_ (fun _ _ h => h) v
  · exact fun v hv => absurd hv List.not_mem_nil
  · exact fun v rest hv hrest => List.forall_mem_cons.2 ⟨hv, hrest⟩
  · exact fun m hm => absurd hm List.not_mem_nil
  · exact fun m rest hm hrest => List.forall_mem_cons.2 ⟨hm, hrest⟩

/-- Every number in the value is whole and fits 64 bits, with or without a sign. -/
inductive Whole : Json → Prop
  | null : Whole null
  | bool (b : Bool) : Whole (bool b)
  | int {n : Int} (least : minInt ≤ n) (greatest : n ≤ maxInt) : Whole (int n)
  | str (s : String) : Whole (str s)
  | arr {items : List Json} (items_whole : ∀ v ∈ items, Whole v) : Whole (arr items)
  | obj {members : List (String × Json)} (members_whole : ∀ m ∈ members, Whole m.2) :
      Whole (obj members)

/-- No key comes twice in one object. -/
inductive DistinctKeys : Json → Prop
  | null : DistinctKeys null
  | bool (b : Bool) : DistinctKeys (bool b)
  | int (n : Int) : DistinctKeys (int n)
  | real (x : Binary64) : DistinctKeys (real x)
  | str (s : String) : DistinctKeys (str s)
  | arr {items : List Json} (items_distinct : ∀ v ∈ items, DistinctKeys v) :
      DistinctKeys (arr items)
  | obj {members : List (String × Json)} (nodup : (members.map Prod.fst).Nodup)
      (members_distinct : ∀ m ∈ members, DistinctKeys m.2) : DistinctKeys (obj members)

mutual

/-- How many containers of a value stand inside one another. -/
def depth : Json → Nat
  | arr items => depthItems items + 1
  | obj members => depthMembers members + 1
  | _ => 0

/-- The greatest `depth` among the items of an array. -/
def depthItems : List Json → Nat
  | [] => 0
  | v :: rest => max (depth v) (depthItems rest)

/-- The greatest `depth` among the values in an object. -/
def depthMembers : List (String × Json) → Nat
  | [] => 0
  | (_, v) :: rest => max (depth v) (depthMembers rest)

end

/-- One value can be turned into the other by giving the members of objects in it another order. -/
inductive Same : Json → Json → Prop
  | refl (v : Json) : Same v v
  | trans {u v w : Json} (first : Same u v) (second : Same v w) : Same u w
  | members {before after : List (String × Json)} (perm : before.Perm after) :
      Same (obj before) (obj after)
  | item {v w : Json} (before after : List Json) (same : Same v w) :
      Same (arr (before ++ v :: after)) (arr (before ++ w :: after))
  | member {v w : Json} (before after : List (String × Json)) (key : String) (same : Same v w) :
      Same (obj (before ++ (key, v) :: after)) (obj (before ++ (key, w) :: after))

namespace Whole

theorem arr_iff {items : List Json} : (Json.arr items).Whole ↔ ∀ v ∈ items, v.Whole :=
  ⟨fun h => by cases h; assumption, .arr⟩

theorem obj_iff {members : List (String × Json)} :
    (Json.obj members).Whole ↔ ∀ m ∈ members, m.2.Whole :=
  ⟨fun h => by cases h; assumption, .obj⟩

end Whole

namespace DistinctKeys

theorem arr_iff {items : List Json} :
    (Json.arr items).DistinctKeys ↔ ∀ v ∈ items, v.DistinctKeys :=
  ⟨fun h => by cases h; assumption, .arr⟩

theorem obj_iff {members : List (String × Json)} : (Json.obj members).DistinctKeys ↔
    (members.map Prod.fst).Nodup ∧ ∀ m ∈ members, m.2.DistinctKeys :=
  ⟨fun h => by cases h; constructor <;> assumption, fun h => .obj h.1 h.2⟩

end DistinctKeys

theorem depthItems_le_iff {items : List Json} {n : Nat} :
    depthItems items ≤ n ↔ ∀ v ∈ items, v.depth ≤ n := by
  induction items with
  | nil => simp [depthItems]
  | cons v rest ih => rw [depthItems, Nat.max_le, ih, List.forall_mem_cons]

theorem depthMembers_le_iff {members : List (String × Json)} {n : Nat} :
    depthMembers members ≤ n ↔ ∀ m ∈ members, m.2.depth ≤ n := by
  induction members with
  | nil => simp [depthMembers]
  | cons m rest ih => rw [depthMembers, Nat.max_le, ih, List.forall_mem_cons]

/-- A reader that goes as deep as the value can read it. -/
theorem Whole.within {v : Json} (h : v.Whole) {n : Nat} (hdepth : v.depth ≤ n) : v.Within n := by
  induction h generalizing n with
  | null => exact .null
  | bool b => exact .bool
  | int least greatest => exact .int least greatest
  | str s => exact .str
  | @arr items _ ih =>
    obtain ⟨m, rfl⟩ : ∃ m, n = m + 1 := ⟨n - 1, by rw [depth] at hdepth; omega⟩
    have hitems := depthItems_le_iff.1 (Nat.le_of_succ_le_succ hdepth)
    exact .arr fun v hv => ih v hv (hitems v hv)
  | @obj members _ ih =>
    obtain ⟨m, rfl⟩ : ∃ m, n = m + 1 := ⟨n - 1, by rw [depth] at hdepth; omega⟩
    have hmembers := depthMembers_le_iff.1 (Nat.le_of_succ_le_succ hdepth)
    exact .obj fun m hm => ih m hm (hmembers m hm)

/-! ### The order of members -/

namespace Same

theorem symm {v w : Json} (h : v.Same w) : w.Same v := by
  induction h with
  | refl v => exact .refl v
  | trans _ _ ih₁ ih₂ => exact ih₂.trans ih₁
  | members perm => exact .members perm.symm
  | item before after _ ih => exact .item before after ih
  | member before after key _ ih => exact .member before after key ih

/-- Items may be replaced by the same ones, one after another. -/
theorem map_items {f : Json → Json} {items : List Json} (h : ∀ v ∈ items, v.Same (f v)) :
    (arr items).Same (arr (items.map f)) := by
  suffices hall : ∀ before, (arr (before ++ items)).Same (arr (before ++ items.map f)) from hall []
  induction items with
  | nil => exact fun before => .refl _
  | cons v rest ih =>
    obtain ⟨hv, hrest⟩ := List.forall_mem_cons.1 h
    intro before
    have hlater := ih hrest (before ++ [f v])
    rw [List.append_assoc, List.append_assoc] at hlater
    exact (item before rest hv).trans hlater

/-- So may the values in an object. -/
theorem map_members {f : Json → Json} {members : List (String × Json)}
    (h : ∀ m ∈ members, m.2.Same (f m.2)) :
    (obj members).Same (obj (members.map fun m => (m.1, f m.2))) := by
  suffices hall : ∀ before, (obj (before ++ members)).Same
      (obj (before ++ members.map fun m => (m.1, f m.2))) from hall []
  induction members with
  | nil => exact fun before => .refl _
  | cons m rest ih =>
    obtain ⟨hm, hrest⟩ := List.forall_mem_cons.1 h
    intro before
    have hlater := ih hrest (before ++ [(m.1, f m.2)])
    rw [List.append_assoc, List.append_assoc] at hlater
    exact (member before rest m.1 hm).trans hlater

section Transport

variable {v w : Json}

theorem distinctKeys (h : v.Same w) (hv : v.DistinctKeys) : w.DistinctKeys := by
  induction h with
  | refl v => exact hv
  | trans _ _ ih₁ ih₂ => exact ih₂ (ih₁ hv)
  | members perm =>
    obtain ⟨hnodup, hmembers⟩ := DistinctKeys.obj_iff.1 hv
    exact .obj ((perm.map Prod.fst).nodup_iff.1 hnodup) fun m hm => hmembers m (perm.mem_iff.2 hm)
  | item before after _ ih =>
    rw [DistinctKeys.arr_iff, List.forall_mem_append, List.forall_mem_cons] at hv ⊢
    exact ⟨hv.1, ih hv.2.1, hv.2.2⟩
  | member before after key _ ih =>
    rw [DistinctKeys.obj_iff, List.forall_mem_append, List.forall_mem_cons, List.map_append,
      List.map_cons] at hv ⊢
    exact ⟨hv.1, hv.2.1, ih hv.2.2.1, hv.2.2.2⟩

theorem whole (h : v.Same w) (hv : v.Whole) : w.Whole := by
  induction h with
  | refl v => exact hv
  | trans _ _ ih₁ ih₂ => exact ih₂ (ih₁ hv)
  | members perm =>
    have hmembers := Whole.obj_iff.1 hv
    exact .obj fun m hm => hmembers m (perm.mem_iff.2 hm)
  | item before after _ ih =>
    rw [Whole.arr_iff, List.forall_mem_append, List.forall_mem_cons] at hv ⊢
    exact ⟨hv.1, ih hv.2.1, hv.2.2⟩
  | member before after key _ ih =>
    rw [Whole.obj_iff, List.forall_mem_append, List.forall_mem_cons] at hv ⊢
    exact ⟨hv.1, ih hv.2.1, hv.2.2⟩

theorem depth_le (h : v.Same w) : w.depth ≤ v.depth := by
  induction h with
  | refl v => exact Nat.le_refl _
  | trans _ _ ih₁ ih₂ => exact Nat.le_trans ih₂ ih₁
  | members perm =>
    refine Nat.succ_le_succ (depthMembers_le_iff.2 fun m hm => ?_)
    exact depthMembers_le_iff.1 (Nat.le_refl _) m (perm.mem_iff.2 hm)
  | @item v w before after _ ih =>
    refine Nat.succ_le_succ (depthItems_le_iff.2 ?_)
    have hv := depthItems_le_iff.1 (Nat.le_refl (depthItems (before ++ v :: after)))
    rw [List.forall_mem_append, List.forall_mem_cons] at hv ⊢
    exact ⟨hv.1, Nat.le_trans ih hv.2.1, hv.2.2⟩
  | @member v w before after key _ ih =>
    refine Nat.succ_le_succ (depthMembers_le_iff.2 ?_)
    have hv := depthMembers_le_iff.1 (Nat.le_refl (depthMembers (before ++ (key, v) :: after)))
    rw [List.forall_mem_append, List.forall_mem_cons] at hv ⊢
    exact ⟨hv.1, Nat.le_trans ih hv.2.1, hv.2.2⟩

end Transport

end Same

/-! ### Sorting -/

section Sorting

variable {α β : Type} (key : α → String)

/-- A list in ascending order of keys. -/
def sortBy (l : List α) : List α := l.mergeSort fun a b => !decide (key b < key a)

theorem sortBy_perm (l : List α) : (sortBy key l).Perm l := List.mergeSort_perm ..

theorem pairwise_sortBy (l : List α) : (sortBy key l).Pairwise fun a b => key a ≤ key b := by
  have hle : ∀ a b : α, (!decide (key b < key a)) = true ↔ key a ≤ key b := fun a b => by
    rw [Bool.not_eq_true', decide_eq_false_iff_not, String.not_lt]
  refine (List.pairwise_mergeSort ?_ ?_ l).imp fun h => (hle _ _).1 h
  · intro a b c hab hbc
    exact (hle a c).2 (String.le_trans ((hle a b).1 hab) ((hle b c).1 hbc))
  · intro a b
    rw [Bool.or_eq_true, hle, hle]
    exact String.le_total ..

/-- Where no key comes twice, it does not matter in which order the members came. -/
theorem sortBy_eq_of_perm {l l' : List α} (hperm : l.Perm l') (hnodup : (l.map key).Nodup) :
    sortBy key l = sortBy key l' := by
  refine List.Perm.eq_of_pairwise (fun a b ha hb hab hba => ?_) (pairwise_sortBy key l)
    (pairwise_sortBy key l') (((sortBy_perm key l).trans hperm).trans (sortBy_perm key l').symm)
  have ha : a ∈ l := (sortBy_perm key l).mem_iff.1 ha
  have hb : b ∈ l := hperm.mem_iff.2 ((sortBy_perm key l').mem_iff.1 hb)
  exact List.inj_on_of_nodup_map hnodup ha hb (String.le_antisymm hab hba)

/-- Members are put in the order that is theirs. -/
theorem sortByKey_of_perm {members ordered : List (String × α)} (hperm : members.Perm ordered)
    (hordered : (ordered.map Prod.fst).Pairwise (· < ·)) : sortByKey members = ordered := by
  have hnodup : (members.map Prod.fst).Nodup :=
    (hperm.map Prod.fst).nodup_iff.2 (hordered.imp String.ne_of_lt)
  refine (sortBy_eq_of_perm Prod.fst hperm hnodup).trans (sortByKey_of_sorted ?_)
  exact hordered.imp String.lt_asymm

/-- Only the keys matter for the order. -/
theorem map_sortBy (f : β → α) (l : List β) :
    (sortBy (fun b => key (f b)) l).map f = sortBy key (l.map f) :=
  List.map_mergeSort fun _ _ _ _ => rfl

end Sorting

/-! ### In order of the keys -/

theorem normalItems_eq (items : List Json) : normalItems items = items.map normal := by
  induction items with
  | nil => rfl
  | cons v rest ih => rw [normalItems, ih, List.map_cons]

theorem normalMembers_eq {members : List (String × Json)} (h : (members.map Prod.fst).Nodup) :
    normalMembers members = members.map fun m => (m.1, normal m.2) := by
  induction members with
  | nil => rfl
  | cons m rest ih =>
    obtain ⟨hnot, hrest⟩ := List.nodup_cons.1 h
    have hany : ¬ rest.any (·.1 == m.1) = true := by
      intro hany
      obtain ⟨m', hm', hkey⟩ := List.any_eq_true.1 hany
      exact hnot (List.mem_map.2 ⟨m', hm', eq_of_beq hkey⟩)
    rw [normalMembers, if_neg hany, ih hrest, List.map_cons]

theorem normal_obj {members : List (String × Json)} (h : (members.map Prod.fst).Nodup) :
    normal (obj members) = obj (sortBy Prod.fst (members.map fun m => (m.1, normal m.2))) := by
  rw [normal, normalMembers_eq h]
  rfl

/-- Putting the members in order leaves the value the same. -/
theorem DistinctKeys.same_normal {v : Json} (h : v.DistinctKeys) : v.Same v.normal := by
  induction h with
  | arr _ ih =>
    rw [normal, normalItems_eq]
    exact .map_items ih
  | obj nodup _ ih =>
    rw [normal_obj nodup]
    exact (Same.map_members ih).trans (.members (sortBy_perm _ _).symm)
  | _ => exact .refl _

/-- Values that are the same come to the same when their members are put in order. -/
theorem Same.normal_eq {v w : Json} (h : v.Same w) (hv : v.DistinctKeys) :
    v.normal = w.normal := by
  induction h with
  | refl v => rfl
  | trans first _ ih₁ ih₂ => exact (ih₁ hv).trans (ih₂ (first.distinctKeys hv))
  | @members before after perm =>
    obtain ⟨hnodup, -⟩ := DistinctKeys.obj_iff.1 hv
    have hnodup' := (perm.map Prod.fst).nodup_iff.1 hnodup
    have hkeys : ((before.map fun m => (m.1, normal m.2)).map Prod.fst).Nodup := by
      rw [List.map_map]
      exact hnodup
    rw [normal_obj hnodup, normal_obj hnodup', sortBy_eq_of_perm _ (perm.map _) hkeys]
  | item before after _ ih =>
    rw [DistinctKeys.arr_iff, List.forall_mem_append, List.forall_mem_cons] at hv
    simp only [normal, normalItems_eq, List.map_append, List.map_cons, ih hv.2.1]
  | @member v w before after key same ih =>
    have hw := (Same.member before after key same).distinctKeys hv
    obtain ⟨hnodup', -⟩ := DistinctKeys.obj_iff.1 hw
    obtain ⟨hnodup, hmembers⟩ := DistinctKeys.obj_iff.1 hv
    have hsame := ih (hmembers (key, v) (List.mem_append_right _ List.mem_cons_self))
    rw [normal_obj hnodup, normal_obj hnodup']
    simp only [List.map_append, List.map_cons, hsame]

/-! ### In order of the written keys -/

/-- A key as it is written, with its quotes and escapes. -/
def writtenKey (key : String) : String := String.ofList (stringChars key)

mutual

/-- The same value with the members of every object in ascending order of their written keys. -/
def arranged : Json → Json
  | arr items => arr (arrangedItems items)
  | obj members => obj (sortBy (fun m => writtenKey m.1) (arrangedMembers members))
  | v => v

/-- `arranged` on the items of an array. -/
def arrangedItems : List Json → List Json
  | [] => []
  | v :: rest => arranged v :: arrangedItems rest

/-- `arranged` on the values in an object, in their given order. -/
def arrangedMembers : List (String × Json) → List (String × Json)
  | [] => []
  | (key, v) :: rest => (key, arranged v) :: arrangedMembers rest

end

theorem arrangedItems_eq (items : List Json) : arrangedItems items = items.map arranged := by
  induction items with
  | nil => rfl
  | cons v rest ih => rw [arrangedItems, ih, List.map_cons]

theorem arrangedMembers_eq (members : List (String × Json)) :
    arrangedMembers members = members.map fun m => (m.1, arranged m.2) := by
  induction members with
  | nil => rfl
  | cons m rest ih => rw [arrangedMembers, ih, List.map_cons]

theorem same_arranged (v : Json) : v.Same v.arranged := by
  induction v using induct with
  | arr items ih =>
    rw [arranged, arrangedItems_eq]
    exact .map_items ih
  | obj members ih =>
    rw [arranged, arrangedMembers_eq]
    exact (Same.map_members ih).trans (.members (sortBy_perm _ _).symm)
  | _ => exact .refl _

/-- A member as its written key and its compact text. -/
def writtenMember (m : String × Json) : String × List Char := (writtenKey m.1, chars m.2)

/-- Members that are joined by commas are the members of a compact text. -/
theorem joinMembers_map (m : String × Json) (rest : List (String × Json)) :
    joinMembers ((m :: rest).map writtenMember) ++ ['\x7d'] =
      stringChars m.1 ++ ':' :: (chars m.2 ++ membersChars rest) := by
  induction rest generalizing m with
  | nil => simp [joinMembers, writtenMember, writtenKey, membersChars]
  | cons m' rest ih =>
    have hjoin : joinMembers ((m :: m' :: rest).map writtenMember) = stringChars m.1 ++
        ':' :: (chars m.2 ++ ',' :: joinMembers ((m' :: rest).map writtenMember)) := by
      simp only [List.map_cons, joinMembers, writtenMember, writtenKey, String.toList_ofList]
    rw [hjoin, membersChars, ← ih]
    simp only [List.append_assoc, List.cons_append]

/-- **The canonical text is a compact text**, of the value with its members in order. -/
theorem canonicalChars_eq (v : Json) : v.canonicalChars = v.arranged.chars := by
  induction v using induct with
  | arr items ih =>
    have hitems : ∀ rest : List Json, (∀ v ∈ rest, v.canonicalChars = v.arranged.chars) →
        canonicalItems rest = itemsChars (arrangedItems rest) := by
      intro rest hrest
      induction rest with
      | nil => rfl
      | cons v rest ih =>
        obtain ⟨hv, hrest⟩ := List.forall_mem_cons.1 hrest
        rw [canonicalItems, hv, ih hrest, arrangedItems, itemsChars]
    cases items with
    | nil => rfl
    | cons v rest =>
      obtain ⟨hv, hrest⟩ := List.forall_mem_cons.1 ih
      rw [canonicalChars, hv, hitems rest hrest, arranged, arrangedItems, chars]
  | obj members ih =>
    have hmembers : canonicalMembers members = (arrangedMembers members).map writtenMember := by
      induction members with
      | nil => rfl
      | cons m rest ihr =>
        obtain ⟨hm, hrest⟩ := List.forall_mem_cons.1 ih
        rw [canonicalMembers, ihr hrest, arrangedMembers, List.map_cons, hm]
        rfl
    have hsorted : sortByKey (canonicalMembers members) =
        (sortBy (fun m => writtenKey m.1) (arrangedMembers members)).map writtenMember := by
      rw [hmembers]
      exact (map_sortBy Prod.fst writtenMember _).symm
    rw [canonicalChars, hsorted, arranged]
    cases sortBy (fun m => writtenKey m.1) (arrangedMembers members) with
    | nil => rfl
    | cons m rest => rw [joinMembers_map, chars]
  | _ => rfl

/-! ### Which values have a canonical text -/

theorem firstFloatItems_eq_none_iff {items : List Json} :
    firstFloatItems items = none ↔ ∀ v ∈ items, v.firstFloat = none := by
  induction items with
  | nil => simp [firstFloatItems]
  | cons v rest ih => rw [firstFloatItems, Option.or_eq_none_iff, ih, List.forall_mem_cons]

theorem firstFloatMembers_eq_none_iff {members : List (String × Json)} :
    firstFloatMembers members = none ↔ ∀ m ∈ members, m.2.firstFloat = none := by
  induction members with
  | nil => simp [firstFloatMembers]
  | cons m rest ih => rw [firstFloatMembers, Option.or_eq_none_iff, ih, List.forall_mem_cons]

/-- No number is refused exactly where all are whole and in range. -/
theorem firstFloat_eq_none_iff (v : Json) : v.firstFloat = none ↔ v.Whole := by
  induction v using induct with
  | null => exact iff_of_true rfl .null
  | bool b => exact iff_of_true rfl (.bool b)
  | str s => exact iff_of_true rfl (.str s)
  | real x => exact iff_of_false nofun nofun
  | int n =>
    rw [firstFloat]
    split
    · rename_i hrange
      exact iff_of_true rfl (.int hrange.1 hrange.2)
    · rename_i hrange
      refine iff_of_false nofun fun hwhole => hrange ?_
      cases hwhole with
      | int least greatest => exact ⟨least, greatest⟩
  | arr items ih =>
    rw [firstFloat, firstFloatItems_eq_none_iff, Whole.arr_iff]
    exact forall₂_congr ih
  | obj members ih =>
    rw [firstFloat, firstFloatMembers_eq_none_iff, Whole.obj_iff]
    exact forall₂_congr ih

/-! ### No blanks -/

mutual

/-- The characters of a text that stand outside its strings, where the front does. -/
def outside : List Char → List Char
  | [] => []
  | '"' :: rest => inside rest
  | c :: rest => c :: outside rest

/-- The characters of a text that stand outside its strings, where the front is in a string. -/
def inside : List Char → List Char
  | [] => []
  | '\\' :: _ :: rest => inside rest
  | '"' :: rest => outside rest
  | _ :: rest => inside rest

end

theorem outside_cons {c : Char} (hc : c ≠ '"') (rest : List Char) :
    outside (c :: rest) = c :: outside rest := by
  rw [outside]
  exact hc

theorem inside_cons {c : Char} (hquote : c ≠ '"') (hbackslash : c ≠ '\\') (rest : List Char) :
    inside (c :: rest) = inside rest := by
  rw [inside]
  · exact fun _ _ h _ => hbackslash h
  · exact hquote

/-- A character as it is written in a string stands in the string. -/
theorem Spelled.inside {c : Char} {written : List Char} (h : Spelled c written)
    (rest : List Char) : inside (written ++ rest) = Json.inside rest := by
  cases h with
  | plain hquote hbackslash _ => exact inside_cons hquote hbackslash rest
  | short _ => rfl
  | unit hcontrol =>
    obtain ⟨hq₁, hb₁⟩ := hexDigit_ne (show c.toNat / 16 < 16 by omega)
    obtain ⟨hq₂, hb₂⟩ := hexDigit_ne (show c.toNat % 16 < 16 by omega)
    show Json.inside ('0' :: '0' :: _ :: _ :: rest) = _
    rw [inside_cons (by decide) (by decide), inside_cons (by decide) (by decide),
      inside_cons hq₁ hb₁, inside_cons hq₂ hb₂]

/-- Characters that leave no blank outside of strings where there was none. -/
def Tight (cs : List Char) : Prop :=
  ∀ rest, (∀ c ∈ outside rest, isSpace c = false) → ∀ c ∈ outside (cs ++ rest), isSpace c = false

namespace Tight

theorem nil : Tight [] := fun _ h => h

theorem append {cs ds : List Char} (hcs : Tight cs) (hds : Tight ds) : Tight (cs ++ ds) := by
  intro rest hrest
  rw [List.append_assoc]
  exact hcs _ (hds rest hrest)

theorem cons {c : Char} (hquote : c ≠ '"') (hspace : isSpace c = false) {cs : List Char}
    (h : Tight cs) : Tight (c :: cs) := by
  intro rest hrest
  rw [List.cons_append, outside_cons hquote]
  exact List.forall_mem_cons.2 ⟨hspace, h rest hrest⟩

/-- Characters that are no quotes have to be no blanks. -/
theorem of_forall {cs : List Char} (h : ∀ c ∈ cs, c ≠ '"' ∧ isSpace c = false) : Tight cs := by
  induction cs with
  | nil => exact .nil
  | cons c cs ih =>
    obtain ⟨⟨hquote, hspace⟩, hcs⟩ := List.forall_mem_cons.1 h
    exact .cons hquote hspace (ih hcs)

/-- Whether there are quotes or blanks can be computed. -/
theorem of_all {cs : List Char} (h : (cs.all fun c => c != '"' && !isSpace c) = true) :
    Tight cs :=
  .of_forall (by simpa using h)

end Tight

theorem tight_stringChars (s : String) : Tight (stringChars s) := by
  intro rest hrest
  have hinside : ∀ cs : List Char, inside (escape cs ++ '"' :: rest) = outside rest := by
    intro cs
    induction cs with
    | nil => rfl
    | cons c cs ih => rw [escape, List.append_assoc, (spelled_escapeChar c).inside, ih]
  show ∀ c ∈ inside (escape s.toList ++ ['"'] ++ rest), isSpace c = false
  rw [List.append_assoc, List.singleton_append, hinside]
  exact hrest

theorem tight_natChars (n : Nat) : Tight (natChars n) := by
  refine .of_forall fun c hc => ?_
  have hne : ∀ d : Char, d.isDigit = false → c ≠ d := by
    rintro d hd rfl
    rw [isDigit_of_mem_natChars hc] at hd
    cases hd
  exact ⟨hne '"' rfl, by simp [isSpace, hne]⟩

/-- **Compact texts have no blanks** but those in their strings. -/
theorem Whole.tight_chars {v : Json} (h : v.Whole) : Tight v.chars := by
  have hmark : ∀ {c : Char} {cs : List Char},
      c = '[' ∨ c = ']' ∨ c = '\x7b' ∨ c = '\x7d' ∨ c = ',' ∨ c = ':' → Tight cs →
        Tight (c :: cs) := by
    rintro c cs (rfl | rfl | rfl | rfl | rfl | rfl) hcs <;> exact .cons (by decide) rfl hcs
  have hbracket : Tight [']'] := hmark (by simp) .nil
  have hbrace : Tight ['\x7d'] := hmark (by simp) .nil
  induction h with
  | null => exact .of_all rfl
  | bool b => cases b <;> exact .of_all rfl
  | @int n _ _ =>
    cases n with
    | ofNat n => exact tight_natChars n
    | negSucc n => exact .cons (by decide) rfl (tight_natChars (n + 1))
  | str s => exact tight_stringChars s
  | @arr items _ ih =>
    have hitems : ∀ rest : List Json, (∀ v ∈ rest, Tight v.chars) → Tight (itemsChars rest) := by
      intro rest hrest
      induction rest with
      | nil => exact hbracket
      | cons v rest ih =>
        obtain ⟨hv, hrest⟩ := List.forall_mem_cons.1 hrest
        exact hmark (by simp) (hv.append (ih hrest))
    cases items with
    | nil => exact hmark (by simp) hbracket
    | cons v rest =>
      obtain ⟨hv, hrest⟩ := List.forall_mem_cons.1 ih
      exact hmark (by simp) (hv.append (hitems rest hrest))
  | @obj members _ ih =>
    have hmembers : ∀ rest : List (String × Json), (∀ m ∈ rest, Tight m.2.chars) →
        Tight (membersChars rest) := by
      intro rest hrest
      induction rest with
      | nil => exact hbrace
      | cons m rest ih =>
        obtain ⟨hm, hrest⟩ := List.forall_mem_cons.1 hrest
        exact hmark (by simp) ((tight_stringChars m.1).append
          (hmark (by simp) (hm.append (ih hrest))))
    cases members with
    | nil => exact hmark (by simp) hbrace
    | cons m rest =>
      obtain ⟨hm, hrest⟩ := List.forall_mem_cons.1 ih
      exact hmark (by simp) ((tight_stringChars m.1).append
        (hmark (by simp) (hm.append (hmembers rest hrest))))

end Json

/-! ### The canonical text -/

namespace Canonical

variable {v w : Json} {c c' : Canonical}

/-- Exactly the values with whole numbers in range have a canonical text. It is the compact text of
the value with its members in order. -/
theorem ofJson_eq_ok_iff (hv : v.DistinctKeys) :
    ofJson v = .ok c ↔ v.Whole ∧ c.text.toList = v.normal.arranged.chars := by
  have hwhole : v.normal.firstFloat = none ↔ v.Whole := by
    rw [Json.firstFloat_eq_none_iff]
    exact ⟨hv.same_normal.symm.whole, hv.same_normal.whole⟩
  unfold ofJson
  split
  · rename_i x hx
    refine iff_of_false nofun fun h => ?_
    rw [hwhole.2 h.1] at hx
    cases hx
  · rename_i hnone
    rw [Except.ok.injEq, ← Json.canonicalChars_eq]
    constructor
    · rintro rfl
      exact ⟨hwhole.1 hnone, String.toList_ofList⟩
    · rintro ⟨-, htext⟩
      rw [← htext, String.ofList_toList]

/-- The only reason to have none is a number. -/
theorem exists_floatRejected (hv : v.DistinctKeys) (h : ¬ v.Whole) :
    ∃ x, ofJson v = .error (.floatRejected x) := by
  cases hresult : ofJson v with
  | ok c => exact absurd ((ofJson_eq_ok_iff hv).1 hresult).1 h
  | error e =>
    cases e with
    | floatRejected x => exact ⟨x, rfl⟩

/-- With its members in order it is the same value. -/
theorem same_arranged (hv : v.DistinctKeys) : v.Same v.normal.arranged :=
  hv.same_normal.trans (Json.same_arranged _)

/-- The canonical text is read back as the value with its members in order, by every reader that
goes deep enough. -/
theorem readWithin_text (hv : v.DistinctKeys) (hc : ofJson v = .ok c) {n : Nat}
    (hdepth : v.depth ≤ n) : Json.readWithin n c.text.toList = some v.normal.arranged := by
  obtain ⟨hwhole, htext⟩ := (ofJson_eq_ok_iff hv).1 hc
  have hsame := same_arranged hv
  rw [htext]
  exact ((hsame.whole hwhole).within (Nat.le_trans hsame.depth_le hdepth)).readWithin_chars

/-- Values that are the same have the same canonical text. -/
theorem ofJson_congr (hv : v.DistinctKeys) (hsame : v.Same w) : ofJson v = ofJson w := by
  unfold ofJson
  rw [hsame.normal_eq hv]

/-- Values with the same canonical bytes are the same. -/
theorem same_of_bytes (hv : v.DistinctKeys) (hw : w.DistinctKeys) (hc : ofJson v = .ok c)
    (hc' : ofJson w = .ok c') (hbytes : c.bytes = c'.bytes) : v.Same w := by
  have hread := readWithin_text hv hc (Nat.le_max_left v.depth w.depth)
  have hread' := readWithin_text hw hc' (Nat.le_max_right v.depth w.depth)
  rw [Bytes.ofText_inj hbytes, hread', Option.some.injEq] at hread
  have hsame := same_arranged hv
  rw [← hread] at hsame
  exact hsame.trans (same_arranged hw).symm

end Canonical

/-- **Canonical texts are faithful.** A value in which no object has a key twice has a canonical
text exactly if all its numbers are whole and fit 64 bits, and is refused for a number otherwise.
Its bytes are valid UTF-8, there are no blanks in it but those in strings, and every reader that
goes as deep as the value reads it back: as the same value, which has the same canonical text. So
two values have the same canonical bytes exactly if they are the same but for the order of the
members of their objects. -/
theorem canonical_text_is_faithful {v : Json} (hv : v.DistinctKeys) :
    ((∃ c, Canonical.ofJson v = .ok c) ↔ v.Whole) ∧
      (¬ v.Whole → ∃ x, Canonical.ofJson v = .error (.floatRejected x)) ∧
      ∀ c, Canonical.ofJson v = .ok c →
        String.fromUTF8? c.bytes.toByteArray = some c.text ∧
          (∀ a ∈ Json.outside c.text.toList, Json.isSpace a = false) ∧
          (∃ w, v.Same w ∧ Canonical.ofJson w = .ok c ∧
            ∀ n, v.depth ≤ n → Json.readWithin n c.text.toList = some w) ∧
          ∀ w c', w.DistinctKeys → Canonical.ofJson w = .ok c' → (c.bytes = c'.bytes ↔ v.Same w) := by
  have hsame := Canonical.same_arranged hv
  refine ⟨⟨?_, fun hwhole => ?_⟩, Canonical.exists_floatRejected hv, fun c hc =>
    ⟨Bytes.fromUTF8?_ofText c.text, ?_, ⟨_, hsame, ?_, fun n => Canonical.readWithin_text hv hc⟩,
      fun w c' hw hc' => ⟨Canonical.same_of_bytes hv hw hc hc', fun h => ?_⟩⟩⟩
  · rintro ⟨c, hc⟩
    exact ((Canonical.ofJson_eq_ok_iff hv).1 hc).1
  · exact ⟨⟨String.ofList v.normal.arranged.chars⟩,
      (Canonical.ofJson_eq_ok_iff hv).2 ⟨hwhole, String.toList_ofList⟩⟩
  · obtain ⟨hwhole, htext⟩ := (Canonical.ofJson_eq_ok_iff hv).1 hc
    have htight := (hsame.whole hwhole).tight_chars [] nofun
    rw [List.append_nil, ← htext] at htight
    exact htight
  · rw [← Canonical.ofJson_congr hv hsame, hc]
  · rw [Canonical.ofJson_congr hv h, hc'] at hc
    rw [Except.ok.inj hc]

namespace Sample

/-- A value with a key that has to be escaped, and a blank in a string. -/
def note : Json := .obj [("b", .arr [.int (-5), .null]), ("a\"\n", .str "x y")]

/-- Its members in order, which is the order of their written keys too. -/
def noteMembers : List (String × Json) := [("a\"\n", .str "x y"), ("b", .arr [.int (-5), .null])]

/-- The canonical text of the value. -/
def noteText : Canonical := ⟨"\x7b\"a\\\"\\n\":\"x y\",\"b\":[-5,null]\x7d"⟩

-- Sorting is a recursion that does not reduce, so each of the two orders is given first.
theorem canonical_note : Canonical.ofJson note = .ok noteText := by
  have hnormal : note.normal = .obj noteMembers :=
    congrArg Json.obj (Json.sortByKey_of_perm (.swap _ _ _) (by decide))
  have hsorted : Json.sortByKey (Json.canonicalMembers noteMembers) =
      Json.canonicalMembers noteMembers := Json.sortByKey_of_sorted (by decide)
  rw [Canonical.ofJson, hnormal]
  show Except.ok (Canonical.mk (String.ofList ('\x7b' ::
    (Json.joinMembers (Json.sortByKey (Json.canonicalMembers noteMembers)) ++ ['\x7d'])))) = _
  rw [hsorted]
  decide +kernel

end Sample

/-- The key with the escapes comes first in the canonical text, and all of it is read back. -/
theorem escaped_key_is_read_back :
    Sample.note.DistinctKeys ∧ ∃ c w, Canonical.ofJson Sample.note = .ok c ∧
      c.text = "\x7b\"a\\\"\\n\":\"x y\",\"b\":[-5,null]\x7d" ∧
      Json.parse c.text = some w ∧ Sample.note.Same w ∧ Canonical.ofJson w = .ok c := by
  have hv : Sample.note.DistinctKeys := by
    refine .obj (by decide) (List.forall_mem_cons.2 ⟨.arr ?_, List.forall_mem_singleton.2 (.str _)⟩)
    exact List.forall_mem_cons.2 ⟨.int _, List.forall_mem_singleton.2 .null⟩
  obtain ⟨-, -, hfaithful⟩ := canonical_text_is_faithful hv
  obtain ⟨-, -, ⟨w, hsame, hw, hread⟩, -⟩ := hfaithful _ Sample.canonical_note
  exact ⟨hv, _, w, Sample.canonical_note, rfl, hread _ (by decide), hsame, hw⟩

end Arbitration
