import Arbitration.Proofs.KeyOrder

/-!
# The order of members

Whichever the order of keys is, there is one way only to put the members of the objects in a value
into it (`Json.Sorts.same_and_ascending_iff`), and members that are in one order are in another one
too if no two keys are against it (`Json.Ascending.iff_keyPairs`). So the members of a canonical
text are in the order of RFC 8785 exactly for those values in which no key of an object overtakes
another one (`canonical_order_is_by_units_iff`).
-/

namespace Arbitration

namespace Json

/-! ### The members of objects -/

/-- The members of every object in the value are in ascending order of their keys. -/
inductive Ascending (before : String → String → Prop) : Json → Prop
  | null : Ascending before null
  | bool (b : Bool) : Ascending before (bool b)
  | int (n : Int) : Ascending before (int n)
  | real (x : Binary64) : Ascending before (real x)
  | str (s : String) : Ascending before (str s)
  | arr {items : List Json} (items_ascending : ∀ v ∈ items, Ascending before v) :
      Ascending before (arr items)
  | obj {members : List (String × Json)} (pairwise : (members.map Prod.fst).Pairwise before)
      (members_ascending : ∀ m ∈ members, Ascending before m.2) : Ascending before (obj members)

/-- Any two keys of an object in the value are related. -/
inductive KeyPairs (P : String → String → Prop) : Json → Prop
  | null : KeyPairs P null
  | bool (b : Bool) : KeyPairs P (bool b)
  | int (n : Int) : KeyPairs P (int n)
  | real (x : Binary64) : KeyPairs P (real x)
  | str (s : String) : KeyPairs P (str s)
  | arr {items : List Json} (items_related : ∀ v ∈ items, KeyPairs P v) : KeyPairs P (arr items)
  | obj {members : List (String × Json)}
      (related : ∀ k ∈ members.map Prod.fst, ∀ l ∈ members.map Prod.fst, P k l)
      (members_related : ∀ m ∈ members, KeyPairs P m.2) : KeyPairs P (obj members)

section Members

variable {before after P : String → String → Prop} {items : List Json}
  {members : List (String × Json)} {v w : Json}

theorem Ascending.arr_iff :
    (Json.arr items).Ascending before ↔ ∀ v ∈ items, v.Ascending before :=
  ⟨fun h => by cases h; assumption, .arr⟩

theorem Ascending.obj_iff : (Json.obj members).Ascending before ↔
    (members.map Prod.fst).Pairwise before ∧ ∀ m ∈ members, m.2.Ascending before :=
  ⟨fun h => by cases h; constructor <;> assumption, fun h => .obj h.1 h.2⟩

theorem KeyPairs.arr_iff : (Json.arr items).KeyPairs P ↔ ∀ v ∈ items, v.KeyPairs P :=
  ⟨fun h => by cases h; assumption, .arr⟩

theorem KeyPairs.obj_iff : (Json.obj members).KeyPairs P ↔
    (∀ k ∈ members.map Prod.fst, ∀ l ∈ members.map Prod.fst, P k l) ∧
      ∀ m ∈ members, m.2.KeyPairs P :=
  ⟨fun h => by cases h; constructor <;> assumption, fun h => .obj h.1 h.2⟩

/-- The order of the members does not matter for the pairs of their keys. -/
theorem Same.keyPairs (h : v.Same w) (hv : v.KeyPairs P) : w.KeyPairs P := by
  induction h with
  | refl v => exact hv
  | trans _ _ ih₁ ih₂ => exact ih₂ (ih₁ hv)
  | members perm =>
    obtain ⟨hrelated, hmembers⟩ := KeyPairs.obj_iff.1 hv
    have hkeys := perm.map Prod.fst
    refine .obj (fun k hk l hl => ?_) fun m hm => hmembers m (perm.mem_iff.2 hm)
    exact hrelated k (hkeys.mem_iff.2 hk) l (hkeys.mem_iff.2 hl)
  | item before after _ ih =>
    rw [KeyPairs.arr_iff, List.forall_mem_append, List.forall_mem_cons] at hv ⊢
    exact ⟨hv.1, ih hv.2.1, hv.2.2⟩
  | member before after key _ ih =>
    rw [KeyPairs.obj_iff, List.forall_mem_append, List.forall_mem_cons, List.map_append,
      List.map_cons] at hv ⊢
    exact ⟨hv.1, hv.2.1, ih hv.2.2.1, hv.2.2.2⟩

/-- Members that are in one order are in another one too if no pair of their keys is against it. -/
theorem Ascending.iff_keyPairs (hasymm : ∀ k l, before k l → ¬ before l k)
    (h : v.Ascending before) :
    v.Ascending after ↔ v.KeyPairs fun k l => before k l → after k l := by
  induction h with
  | null => exact iff_of_true .null .null
  | bool b => exact iff_of_true (.bool b) (.bool b)
  | int n => exact iff_of_true (.int n) (.int n)
  | real x => exact iff_of_true (.real x) (.real x)
  | str s => exact iff_of_true (.str s) (.str s)
  | arr _ ih =>
    rw [Ascending.arr_iff, KeyPairs.arr_iff]
    exact forall₂_congr ih
  | @obj members pairwise _ ih =>
    rw [Ascending.obj_iff, KeyPairs.obj_iff]
    refine and_congr ?_ (forall₂_congr ih)
    constructor
    · intro hafter
      -- of two keys the first in the list is the one that comes before the other
      have hself : ∀ k ∈ members.map Prod.fst, before k k → after k k := fun k _ h =>
        absurd h (hasymm k k h)
      have hbackward : (members.map Prod.fst).Pairwise fun k l => before l k → after l k :=
        pairwise.imp fun h hback => absurd hback (hasymm _ _ h)
      have hforward : (members.map Prod.fst).Pairwise fun k l => before k l → after k l :=
        hafter.imp (S := fun k l => before k l → after k l) fun h _ => h
      exact hforward.forall_of_forall_of_flip hself hbackward
    · intro hrelated
      exact pairwise.imp_of_mem fun hk hl hbefore => hrelated _ hk _ hl hbefore

end Members

/-! ### Sorting the members of objects -/

mutual

/-- The same value with the members of every object sorted. -/
def reordered (sort : List (String × Json) → List (String × Json)) : Json → Json
  | arr items => arr (reorderedItems sort items)
  | obj members => obj (sort (reorderedMembers sort members))
  | v => v

/-- `reordered` on the items of an array. -/
def reorderedItems (sort : List (String × Json) → List (String × Json)) : List Json → List Json
  | [] => []
  | v :: rest => reordered sort v :: reorderedItems sort rest

/-- `reordered` on the values in an object, in their given order. -/
def reorderedMembers (sort : List (String × Json) → List (String × Json)) :
    List (String × Json) → List (String × Json)
  | [] => []
  | (key, v) :: rest => (key, reordered sort v) :: reorderedMembers sort rest

end

/-- `sort` puts members in the order `before` of their keys. -/
structure Sorts (before : String → String → Prop)
    (sort : List (String × Json) → List (String × Json)) : Prop where
  asymm : ∀ k l, before k l → ¬ before l k
  perm : ∀ members, (sort members).Perm members
  pairwise : ∀ members, (members.map Prod.fst).Nodup → ((sort members).map Prod.fst).Pairwise before

section Reordered

variable {before : String → String → Prop} {sort : List (String × Json) → List (String × Json)}
  {items : List Json} {members members' : List (String × Json)} {v w : Json}

theorem reordered_arr : reordered sort (arr items) = arr (items.map (reordered sort)) := by
  have hitems : ∀ items, reorderedItems sort items = items.map (reordered sort) := by
    intro items
    induction items with
    | nil => rfl
    | cons v rest ih => rw [reorderedItems, ih, List.map_cons]
  rw [reordered, hitems]

theorem reordered_obj : reordered sort (obj members) =
    obj (sort (members.map fun m => (m.1, reordered sort m.2))) := by
  have hmembers : ∀ members, reorderedMembers sort members =
      members.map fun m => (m.1, reordered sort m.2) := by
    intro members
    induction members with
    | nil => rfl
    | cons m rest ih => rw [reorderedMembers, ih, List.map_cons]
  rw [reordered, hmembers]

namespace Sorts

/-- Members in the order of their keys stand in no other order. -/
theorem eq_of_perm (hsort : Sorts before sort) (hperm : members.Perm members')
    (h : (members.map Prod.fst).Pairwise before) (h' : (members'.map Prod.fst).Pairwise before) :
    members = members' := by
  refine List.Perm.eq_of_pairwise (fun m m' _ _ hbefore hafter => ?_) (List.pairwise_map.1 h)
    (List.pairwise_map.1 h') hperm
  exact absurd hafter (hsort.asymm _ _ hbefore)

/-- It does not matter in which order the members came. -/
theorem sort_congr (hsort : Sorts before sort) (hperm : members.Perm members')
    (hnodup : (members.map Prod.fst).Nodup) : sort members = sort members' := by
  refine hsort.eq_of_perm (((hsort.perm _).trans hperm).trans (hsort.perm _).symm)
    (hsort.pairwise _ hnodup) (hsort.pairwise _ ?_)
  exact (hperm.map Prod.fst).nodup_iff.1 hnodup

theorem same_reordered (hsort : Sorts before sort) (v : Json) : v.Same (v.reordered sort) := by
  induction v using induct with
  | arr items ih =>
    rw [reordered_arr]
    exact .map_items ih
  | obj members ih =>
    rw [reordered_obj]
    exact (Same.map_members ih).trans (.members (hsort.perm _).symm)
  | _ => exact .refl _

/-- A value and the value with its members in another order come to the same. -/
theorem reordered_congr (hsort : Sorts before sort) (h : v.Same w) (hv : v.DistinctKeys) :
    v.reordered sort = w.reordered sort := by
  induction h with
  | refl v => rfl
  | trans first _ ih₁ ih₂ => exact (ih₁ hv).trans (ih₂ (first.distinctKeys hv))
  | @members members members' perm =>
    obtain ⟨hnodup, -⟩ := DistinctKeys.obj_iff.1 hv
    have hkeys : ((members.map fun m => (m.1, reordered sort m.2)).map Prod.fst).Nodup := by
      rw [List.map_map]
      exact hnodup
    rw [reordered_obj, reordered_obj, hsort.sort_congr (perm.map _) hkeys]
  | item before after _ ih =>
    rw [DistinctKeys.arr_iff, List.forall_mem_append, List.forall_mem_cons] at hv
    simp only [reordered_arr, List.map_append, List.map_cons, ih hv.2.1]
  | @member v w before after key _ ih =>
    obtain ⟨-, hmembers⟩ := DistinctKeys.obj_iff.1 hv
    have hsame := ih (hmembers (key, v) (List.mem_append_right _ List.mem_cons_self))
    simp only [reordered_obj, List.map_append, List.map_cons, hsame]

theorem ascending_reordered (hsort : Sorts before sort) (hv : v.DistinctKeys) :
    (v.reordered sort).Ascending before := by
  induction hv with
  | null => exact .null
  | bool b => exact .bool b
  | int n => exact .int n
  | real x => exact .real x
  | str s => exact .str s
  | arr _ ih =>
    rw [reordered_arr]
    exact .arr (List.forall_mem_map.2 ih)
  | @obj members nodup _ ih =>
    rw [reordered_obj]
    refine .obj (hsort.pairwise _ ?_) fun m hm => ?_
    · rw [List.map_map]
      exact nodup
    · obtain ⟨m', hm', rfl⟩ := List.mem_map.1 ((hsort.perm _).mem_iff.1 hm)
      exact ih m' hm'

/-- Members that are in order stay where they are. -/
theorem reordered_of_ascending (hsort : Sorts before sort) (h : v.Ascending before) :
    v.reordered sort = v := by
  induction h with
  | arr _ ih => rw [reordered_arr, List.map_congr_left ih, List.map_id']
  | @obj members pairwise _ ih =>
    have hsame : (members.map fun m => (m.1, reordered sort m.2)) = members := by
      refine (List.map_congr_left fun m hm => ?_).trans (List.map_id _)
      rw [ih m hm]
      rfl
    have hnodup : (members.map Prod.fst).Nodup := by
      refine pairwise.imp fun hbefore heq => ?_
      subst heq
      exact hsort.asymm _ _ hbefore hbefore
    rw [reordered_obj, hsame,
      hsort.eq_of_perm (hsort.perm members) (hsort.pairwise _ hnodup) pairwise]
  | _ => rfl

/-- **There is one order of the members**: the same value with its members in order is the value
with its members sorted. -/
theorem same_and_ascending_iff (hsort : Sorts before sort) (hv : v.DistinctKeys) :
    v.Same w ∧ w.Ascending before ↔ w = v.reordered sort := by
  constructor
  · rintro ⟨hsame, hascending⟩
    rw [hsort.reordered_congr hsame hv, hsort.reordered_of_ascending hascending]
  · rintro rfl
    exact ⟨hsort.same_reordered v, hsort.ascending_reordered hv⟩

end Sorts

end Reordered

/-! ### By code units and as written -/

/-- Sorting by what belongs to one key only. -/
theorem sorts_of_le {κ : Type} [LinearOrder κ] {key : String → κ} (hkey : Function.Injective key)
    {sort : List (String × Json) → List (String × Json)}
    (perm : ∀ members, (sort members).Perm members)
    (hle : ∀ members, (sort members).Pairwise fun m m' => key m.1 ≤ key m'.1) :
    Sorts (fun k l => key k < key l) sort where
  asymm _ _ := lt_asymm
  perm := perm
  pairwise members hnodup := by
    have hne : (sort members).Pairwise fun m m' => m.1 ≠ m'.1 :=
      List.pairwise_map.1 (((perm members).map Prod.fst).nodup_iff.2 hnodup)
    exact List.pairwise_map.2 <| (hle members).imp₂
      (fun m m' h hne => lt_of_le_of_ne h fun heq => hne (hkey heq)) hne

/-- Members in ascending order of the code units of their keys. -/
def sortUnits (members : List (String × Json)) : List (String × Json) :=
  members.mergeSort fun m m' => utf16 m.1 ≤ utf16 m'.1

theorem sorts_sortUnits : Sorts UnitsBefore sortUnits := by
  refine sorts_of_le (fun _ _ => utf16_inj) (fun _ => List.mergeSort_perm ..) fun members => ?_
  refine (List.pairwise_mergeSort ?_ ?_ members).imp fun h => of_decide_eq_true h
  · intro a b c hab hbc
    exact decide_eq_true (le_trans (of_decide_eq_true hab) (of_decide_eq_true hbc))
  · intro a b
    rw [Bool.or_eq_true, decide_eq_true_eq, decide_eq_true_eq]
    exact le_total _ _

theorem writtenKey_inj {k l : String} (h : writtenKey k = writtenKey l) : k = l := by
  have hchars := congrArg String.toList h
  rw [writtenKey, writtenKey, String.toList_ofList, String.toList_ofList] at hchars
  exact (escape_append_inj (List.cons.inj hchars).2).1

theorem sorts_written : Sorts WrittenBefore (sortBy fun m => writtenKey m.1) :=
  sorts_of_le (fun _ _ => writtenKey_inj) (sortBy_perm _) (pairwise_sortBy _)

/-- The canonical order is one of these. -/
theorem arranged_eq (v : Json) : v.arranged = v.reordered (sortBy fun m => writtenKey m.1) := by
  induction v using induct with
  | arr items ih => rw [arranged, arrangedItems_eq, reordered_arr, List.map_congr_left ih]
  | obj members ih =>
    have hmembers : members.map (fun m => (m.1, arranged m.2)) =
        members.map fun m => (m.1, reordered (sortBy fun m => writtenKey m.1) m.2) :=
      List.map_congr_left fun m hm => by rw [ih m hm]
    rw [arranged, arrangedMembers_eq, reordered_obj, hmembers]
  | _ => rfl

/-- The value with its members in the order of RFC 8785. -/
def unitOrdered (v : Json) : Json := v.reordered sortUnits

/-- In no object of the value a key overtakes another one. -/
def OrderKept (v : Json) : Prop := v.KeyPairs fun k l => ¬ Overtakes k l

theorem keyPairs_iff_orderKept {v : Json} :
    (v.KeyPairs fun k l => WrittenBefore k l → UnitsBefore k l) ↔ v.OrderKept := by
  have hpairs : ∀ k l, (WrittenBefore k l → UnitsBefore k l) ↔ ¬ Overtakes k l := by
    intro k l
    rw [overtakes_iff, not_and]
    refine forall_congr' fun hwritten => ?_
    have hne : utf16 k ≠ utf16 l := fun h => lt_irrefl _ (utf16_inj h ▸ hwritten)
    exact ⟨lt_asymm, fun h => lt_of_le_of_ne (not_lt.1 h) hne⟩
  simp only [OrderKept, hpairs]

/-- Values with numbers that can be read are known from their compact texts. -/
theorem Whole.text_inj {v w : Json} (hv : v.Whole) (hw : w.Whole) (h : v.text = w.text) :
    v = w := by
  have hchars := congrArg String.toList h
  rw [text, text, String.toList_ofList, String.toList_ofList] at hchars
  have hread := (hv.within (Nat.le_max_left v.depth w.depth)).readWithin_chars
  rw [hchars, (hw.within (Nat.le_max_right v.depth w.depth)).readWithin_chars] at hread
  exact (Option.some.inj hread).symm

end Json

namespace Canonical

variable {v : Json} {c : Canonical}

theorem ascending_arranged (hv : v.DistinctKeys) :
    v.normal.arranged.Ascending Json.WrittenBefore := by
  rw [Json.arranged_eq]
  exact Json.sorts_written.ascending_reordered (hv.same_normal.distinctKeys hv)

/-- The members in the canonical text are ascending by code units too if the order is kept. -/
theorem arranged_ascending_iff (hv : v.DistinctKeys) :
    v.normal.arranged.Ascending Json.UnitsBefore ↔ v.OrderKept := by
  have hsame := same_arranged hv
  rw [(ascending_arranged hv).iff_keyPairs Json.sorts_written.asymm, Json.keyPairs_iff_orderKept]
  exact ⟨hsame.symm.keyPairs, hsame.keyPairs⟩

end Canonical

/-- **When the canonical order is that of RFC 8785.** One value is the same and has its members in
ascending order of the code units of their keys. The canonical text is the compact text of this
value if no key of an object overtakes another one, and only then: in the canonical text the members
are in the order of the written keys. -/
theorem canonical_order_is_by_units_iff {v : Json} {c : Canonical} (hv : v.DistinctKeys)
    (hc : Canonical.ofJson v = .ok c) :
    (∀ w, v.Same w ∧ w.Ascending Json.UnitsBefore ↔ w = v.unitOrdered) ∧
      (c.bytes = Bytes.ofText v.unitOrdered.text ↔ v.OrderKept) ∧
      ∀ n, v.depth ≤ n → ∃ w, Json.readWithin n c.text.toList = some w ∧
        w.Ascending Json.WrittenBefore ∧ (w.Ascending Json.UnitsBefore ↔ v.OrderKept) := by
  have hsame := Canonical.same_arranged hv
  have hunits : ∀ w, v.Same w ∧ w.Ascending Json.UnitsBefore ↔ w = v.unitOrdered := fun w =>
    Json.sorts_sortUnits.same_and_ascending_iff hv
  obtain ⟨hwhole, htext⟩ := (Canonical.ofJson_eq_ok_iff hv).1 hc
  have hbytes : c.bytes = Bytes.ofText v.unitOrdered.text ↔ v.normal.arranged = v.unitOrdered := by
    have hcanonical : c.text = v.normal.arranged.text := by
      rw [← String.toList_inj, htext, Json.text, String.toList_ofList]
    rw [Canonical.bytes, hcanonical]
    constructor
    · intro h
      exact (hsame.whole hwhole).text_inj ((Json.sorts_sortUnits.same_reordered v).whole hwhole)
        (Bytes.ofText_inj h)
    · intro h
      rw [h]
  refine ⟨hunits, ?_, fun n hdepth => ⟨_, Canonical.readWithin_text hv hc hdepth,
    Canonical.ascending_arranged hv, Canonical.arranged_ascending_iff hv⟩⟩
  rw [hbytes, ← hunits, and_iff_right hsame, Canonical.arranged_ascending_iff hv]

/-- A value with an escaped key in which the order is kept. -/
theorem escaped_key_keeps_the_order :
    Sample.note.DistinctKeys ∧ Canonical.ofJson Sample.note = .ok Sample.noteText ∧
      Sample.note.OrderKept ∧
      Sample.noteText.bytes = Bytes.ofText Sample.note.unitOrdered.text := by
  have hv : Sample.note.DistinctKeys := by
    refine .obj (by decide) (List.forall_mem_cons.2 ⟨.arr ?_, List.forall_mem_singleton.2 (.str _)⟩)
    exact List.forall_mem_cons.2 ⟨.int _, List.forall_mem_singleton.2 .null⟩
  have hkept : Sample.note.OrderKept := by
    refine .obj (by decide) (List.forall_mem_cons.2 ⟨.arr ?_, List.forall_mem_singleton.2 (.str _)⟩)
    exact List.forall_mem_cons.2 ⟨.int _, List.forall_mem_singleton.2 .null⟩
  obtain ⟨-, hbytes, -⟩ := canonical_order_is_by_units_iff hv Sample.canonical_note
  exact ⟨hv, Sample.canonical_note, hkept, hbytes.2 hkept⟩

namespace Sample

/-- Two members, where one key begins the other and a blank comes next. -/
def exhibitMembers : List (String × Json) := [("exhibit", .int 1), ("exhibit 2", .int 2)]

/-- The canonical text of the two, with the longer key first. -/
def exhibitsText : Canonical := ⟨"\x7b\"exhibit 2\":2,\"exhibit\":1\x7d"⟩

theorem canonical_exhibits : Canonical.ofJson (.obj exhibitMembers) = .ok exhibitsText := by
  have hnormal : (Json.obj exhibitMembers).normal = .obj exhibitMembers :=
    congrArg Json.obj (Json.sortByKey_of_sorted (by decide))
  have hsorted : Json.sortByKey (Json.canonicalMembers exhibitMembers) =
      (Json.canonicalMembers exhibitMembers).reverse :=
    Json.sortByKey_of_perm (.swap _ _ _) (by decide)
  rw [Canonical.ofJson, hnormal]
  show Except.ok (Canonical.mk (String.ofList ('\x7b' ::
    (Json.joinMembers (Json.sortByKey (Json.canonicalMembers exhibitMembers)) ++ ['\x7d'])))) = _
  rw [hsorted]
  decide +kernel

theorem unitOrdered_exhibits : (Json.obj exhibitMembers).unitOrdered = .obj exhibitMembers := by
  refine Json.sorts_sortUnits.reordered_of_ascending (.obj ?_ ?_)
  · decide
  · exact List.forall_mem_cons.2 ⟨.int _, List.forall_mem_singleton.2 (.int _)⟩

end Sample

/-- The longer key comes first in the canonical text, and the shorter one in that of RFC 8785. -/
theorem longer_key_overtakes :
    ∃ v c, Json.DistinctKeys v ∧ Canonical.ofJson v = .ok c ∧
      c.text = "\x7b\"exhibit 2\":2,\"exhibit\":1\x7d" ∧
      v.unitOrdered.text = "\x7b\"exhibit\":1,\"exhibit 2\":2\x7d" ∧
      c.bytes ≠ Bytes.ofText v.unitOrdered.text := by
  have hv : (Json.obj Sample.exhibitMembers).DistinctKeys := by
    refine .obj (by decide) (List.forall_mem_cons.2 ⟨.int _, List.forall_mem_singleton.2 (.int _)⟩)
  have htext : (Json.obj Sample.exhibitMembers).unitOrdered.text =
      "\x7b\"exhibit\":1,\"exhibit 2\":2\x7d" := by
    rw [Sample.unitOrdered_exhibits]
    decide +kernel
  refine ⟨_, _, hv, Sample.canonical_exhibits, rfl, htext, fun hbytes => ?_⟩
  rw [htext] at hbytes
  exact absurd (Bytes.ofText_inj hbytes) (by decide)

end Arbitration
