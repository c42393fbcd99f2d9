import Arbitration.Config.Document
import Arbitration.Proofs.Recording
import Arbitration.Proofs.YamlLines

/-!
# Configurations survive YAML

The text of a configuration has a line for each parameter. Read again it is the same configuration,
and read without some of its lines it is the one in which the parameters of these lines have their
defaults, provided that it is valid: `configurations_survive_yaml`.

Three readers follow one another, and each is inverse to what is written for it. The words of the
lines are read as a mapping (`Node.parse_lines`). Each of them is read as the number, truth value or
name for which it stands, because a default says under each name what is asked for
(`Config.Written`): of a number this is its decimal numeral (`natural?_toString`). And of the
members of a record those that are there are taken (`Config.ofMembers?_filter`). Which lines are
left does not have to be told, as a line starts with the name of its parameter.
-/

namespace Arbitration

open Json

/-! ### Numerals -/

namespace Yaml

/-- The digits of base ten have the same values in every base that has them. -/
theorem hexValue_of_isDigit {c : Char} (h : c.isDigit = true) :
    Text.hexValue c = some (digitValue c) ∧ digitValue c < 10 := by
  simp only [Char.isDigit, Bool.and_eq_true, decide_eq_true_eq, UInt32.le_iff_toNat_le,
    ge_iff_le] at h
  have hrange : '0' ≤ c ∧ c ≤ '9' := h
  have hle : c.toNat ≤ 57 := h.2
  rw [Text.hexValue, if_pos hrange, digitValue]
  exact ⟨rfl, by omega⟩

/-- Digits have the number that they stand for. -/
theorem numeral?_of_isDigit {ds : List Char} (hne : ds ≠ [])
    (hdigits : ∀ d ∈ ds, d.isDigit = true) : numeral? 10 ds = some (natOfDigits ds) := by
  have hfold : ∀ (ds : List Char) (n : Nat), (∀ d ∈ ds, d.isDigit = true) →
      ds.foldlM (fun n c => (Text.hexValue c).bind fun v =>
        if v < 10 then some (10 * n + v) else none) n =
      some (ds.foldl (fun n c => 10 * n + digitValue c) n) := by
    intro ds
    induction ds with
    | nil => exact fun n _ => rfl
    | cons d ds ih =>
      intro n hdigits
      obtain ⟨hd, hds⟩ := List.forall_mem_cons.1 hdigits
      obtain ⟨hvalue, hlt⟩ := hexValue_of_isDigit hd
      rw [List.foldlM_cons, hvalue, Option.bind_some, if_pos hlt]
      exact ih _ hds
  rw [numeral?, List.isEmpty_eq_false_iff.2 hne, if_neg Bool.false_ne_true]
  exact hfold ds 0 hdigits

/-- **A number is read back** from its numeral: this has no sign, no letter for another base, and
no zero in front. -/
theorem natural?_toString (n : Nat) : natural? (toString (n : Int)) = some n := by
  have hchars : (toString (n : Int)).toList = natChars n := String.toList_ofList
  have hne : natChars n ≠ [] := Nat.toDigits_ne_nil
  have hdigits : ∀ d ∈ natChars n, d.isDigit = true := fun d => isDigit_of_mem_natChars
  have hplus : dropPlus (natChars n) = natChars n := by
    unfold dropPlus
    split
    · rename_i heq
      have hdigit := hdigits '+' (heq ▸ List.mem_cons_self)
      cases hdigit
    · rfl
  have hzero : hasLeadingZero (natChars n) = false := by
    unfold hasLeadingZero
    split
    · rename_i rest heq
      cases rest with
      | nil => rfl
      | cons d rest => exact absurd heq (natChars_ne_zero_cons n d rest)
    · rfl
  rw [natural?, hchars, hplus]
  unfold magnitude?
  split
  · rename_i heq
    exact absurd heq (natChars_ne_zero_cons n _ _)
  · rename_i heq
    exact absurd heq (natChars_ne_zero_cons n _ _)
  · rename_i heq
    exact absurd heq (natChars_ne_zero_cons n _ _)
  · rw [hzero, if_neg Bool.false_ne_true, numeral?_of_isDigit hne hdigits, natOfDigits_natChars]

end Yaml

open Yaml

namespace Config

/-! ### Values -/

/-- What is written for a value is a word, and where the value is asked for the word gives it. -/
structure Written (j : Json) : Prop where
  word : Word (scalarText j).toList
  read : (shapeOf j).json? .asAsked (.scalar .plain (scalarText j)) = some j

theorem written_nat (n : Nat) : Written (.nat n) where
  word := by
    have hchars : (scalarText (.nat n)).toList = natChars n := String.toList_ofList
    rw [hchars]
    refine ⟨Nat.toDigits_ne_nil, fun c hc => ?_⟩
    have hdigit : ('0' ≤ c && c ≤ '9') = true := isDigit_of_mem_natChars hc
    rw [isWordChar, hdigit, Bool.or_true, Bool.true_or]
  read := by
    show (natural? (toString (n : Int))).map Json.nat = _
    rw [natural?_toString]
    rfl

theorem written_bool (b : Bool) : Written (.bool b) where
  word := by cases b <;> decide +kernel
  read := by cases b <;> rfl

theorem written_str {s : String} (h : Word s.toList) : Written (.str s) := ⟨h, rfl⟩

variable {c : Config} {given : String → Bool} {m : String × Json} {ms : List (String × Json)}

/-- Every parameter is a number, a truth value or a word. -/
theorem written_of_mem : ∀ m ∈ c.members, Written m.2 := by
  have hnumber : ∀ n : UInt64, Written (toJson n) := fun n => written_nat n.toNat
  have hcount : ∀ n : UInt32, Written (toJson n) := fun n => written_nat n.toNat
  have hamount : ∀ a : Amount, Written (toJson a) := fun a => written_nat a.toNat
  have hflag : ∀ b : Bool, Written (toJson b) := written_bool
  have hreserve : ∀ p : ReservePolicy, Written (toJson p) := fun p =>
    written_str (by cases p <;> decide +kernel)
  have hunfreeze : ∀ p : UnfreezePolicy, Written (toJson p) := fun p =>
    written_str (by cases p <;> decide +kernel)
  simp only [members, List.forall_mem_cons, List.not_mem_nil, false_imp_iff, implies_true,
    hnumber, hcount, hamount, hflag, hreserve, hunfreeze, and_true]

/-- Under the name of a parameter something of the kind of its default is asked for. -/
theorem memberJson?_of_mem : ∀ m ∈ c.members, ∀ v : Node,
    Shape.memberJson? .asAsked (default.members.map fun m => (m.1, shapeOf m.2)) m.1 v =
      (shapeOf m.2).json? .asAsked v := by
  simp only [members, List.forall_mem_cons]
  repeat refine ⟨fun _ => rfl, ?_⟩
  exact nofun

theorem map_fst_members (c : Config) : c.members.map (·.1) = fields := rfl

/-- The names of the parameters are words, and no two are the same. -/
theorem word_of_mem_fields :
    ∀ name ∈ fields, Word name.toList ∧ name.toList.length ≤ 1024 := by
  decide +kernel

theorem nodup_fields : fields.Nodup := by decide +kernel

/-! ### Lines -/

/-- Key and value of the line for a parameter. -/
def lineOf (m : String × Json) : List Char × List Char := (m.1.toList, (scalarText m.2).toList)

theorem toList_yamlLine (m : String × Json) : (yamlLine m).toList = lineChars (lineOf m) := by
  simp [yamlLine, lineChars, lineOf, String.toList_append]

theorem plainLine_of_mem (hm : m ∈ c.members) : PlainLine (lineOf m) := by
  have hfield : m.1 ∈ fields := map_fst_members c ▸ List.mem_map_of_mem hm
  obtain ⟨hkey, hshort⟩ := word_of_mem_fields m.1 hfield
  exact ⟨hkey, hshort, (written_of_mem m hm).word⟩

/-- A line ends where its text ends, and nowhere before. -/
theorem exists_body_of_mem_yamlLines {line : String} (h : line ∈ c.yamlLines) :
    ∃ body, line = body ++ "\n" ∧ '\n' ∉ body.toList := by
  obtain ⟨m, hm, rfl⟩ := List.mem_map.1 h
  have hplain := plainLine_of_mem hm
  have hword : ∀ {cs : List Char}, Word cs → '\n' ∉ cs := fun hcs hmem =>
    absurd (hcs.chars _ hmem) (by decide)
  refine ⟨m.1 ++ ": " ++ scalarText m.2, rfl, ?_⟩
  simp only [String.toList_append, List.mem_append, not_or]
  exact ⟨⟨hword hplain.key, by decide +kernel⟩, hword hplain.value⟩

theorem join_yamlLine (ms : List (String × Json)) :
    String.join (ms.map yamlLine) = String.ofList ((ms.map lineOf).flatMap lineChars) := by
  rw [← String.toList_inj, String.toList_join, String.toList_ofList]
  simp only [List.flatMap_map, toList_yamlLine]

/-- The pair of a line is read as the member that the line is for. -/
theorem mapM_linePair (h : ∀ m ∈ ms, m ∈ c.members) :
    ((ms.map lineOf).map linePair).mapM (fun (k, v) => do
      let name ← k.fieldName? fields .asAsked
      return (name, ← Shape.memberJson? .asAsked
        (default.members.map fun m => (m.1, shapeOf m.2)) name v)) = some ms := by
  induction ms with
  | nil => rfl
  | cons m ms ih =>
    obtain ⟨hm, hms⟩ := List.forall_mem_cons.1 h
    have hpair : linePair (lineOf m) =
        (.scalar .plain m.1, .scalar .plain (scalarText m.2)) := by
      rw [linePair, lineOf, String.ofList_toList, String.ofList_toList]
    have hname : (Node.scalar .plain m.1).fieldName? fields .asAsked = some m.1 := rfl
    have hvalue := (memberJson?_of_mem m hm (.scalar .plain (scalarText m.2))).trans
      (written_of_mem m hm).read
    rw [List.map_cons, List.map_cons, List.mapM_cons, ih hms, hpair]
    simp only [hname, hvalue, Option.bind_eq_bind, Option.bind_some, Option.pure_def]

/-- **A text of lines is read** as the members that they are for. -/
theorem read?_lines (h : ∀ m ∈ ms, m ∈ c.members) :
    Yaml.read? shape (String.join (ms.map yamlLine)) = some (.obj ms) := by
  have hlines : ∀ l ∈ ms.map lineOf, PlainLine l :=
    List.forall_mem_map.2 fun m hm => plainLine_of_mem (h m hm)
  rw [Yaml.read?, join_yamlLine, Node.parse_lines hlines, Option.bind_some]
  cases ms with
  | nil => rfl
  | cons m ms =>
    rw [List.map_cons, if_neg (List.cons_ne_nil _ _), ← List.map_cons, shape, Shape.json?]
    exact congrArg (Option.bind · fun members => some (obj members)) (mapM_linePair h)

/-! ### Deleted lines -/

/-- The configuration with the parameters that are given, and the defaults for the others. -/
def restrict (given : String → Bool) (c : Config) : Config where
  stakeWindowSecs :=
    if given "stake_window_secs" then c.stakeWindowSecs else default.stakeWindowSecs
  resolutionTimeoutSecs :=
    if given "resolution_timeout_secs" then c.resolutionTimeoutSecs
    else default.resolutionTimeoutSecs
  cooldownSecs := if given "cooldown_secs" then c.cooldownSecs else default.cooldownSecs
  escalationMultiplierBps :=
    if given "escalation_multiplier_bps" then c.escalationMultiplierBps
    else default.escalationMultiplierBps
  maxCounters := if given "max_counters" then c.maxCounters else default.maxCounters
  counterBaseFee := if given "counter_base_fee" then c.counterBaseFee else default.counterBaseFee
  counterExtensionSecs :=
    if given "counter_extension_secs" then c.counterExtensionSecs else default.counterExtensionSecs
  maxTotalExtensionSecs :=
    if given "max_total_extension_secs" then c.maxTotalExtensionSecs
    else default.maxTotalExtensionSecs
  timeoutBurnBps := if given "timeout_burn_bps" then c.timeoutBurnBps else default.timeoutBurnBps
  incentiveBps := if given "incentive_bps" then c.incentiveBps else default.incentiveBps
  routeExcessFeeToPool :=
    if given "route_excess_fee_to_pool" then c.routeExcessFeeToPool
    else default.routeExcessFeeToPool
  reservePolicy := if given "reserve_policy" then c.reservePolicy else default.reservePolicy
  unfreezePolicy := if given "unfreeze_policy" then c.unfreezePolicy else default.unfreezePolicy
  subsidyBaseBps := if given "subsidy_base_bps" then c.subsidyBaseBps else default.subsidyBaseBps
  subsidyMaxBps := if given "subsidy_max_bps" then c.subsidyMaxBps else default.subsidyMaxBps

/-- Of the members of a record some are taken away by name. The others keep their values. -/
theorem field?_filter (given : String → Bool) (ms : List (String × Json)) (name : String) :
    field? (ms.filter fun m => given m.1) name =
      if given name then field? ms name else some none := by
  have hswap : (ms.filter fun m => given m.1).filter (·.1 == name) =
      if given name then ms.filter (·.1 == name) else [] := by
    rw [List.filter_filter]
    split
    · rename_i hgiven
      refine List.filter_congr fun m _ => ?_
      cases hname : m.1 == name with
      | true => rw [eq_of_beq hname, hgiven, Bool.true_and]
      | false => exact Bool.false_and _
    · rename_i hgiven
      refine List.filter_eq_nil_iff.2 fun m _ hboth => ?_
      obtain ⟨hname, hm⟩ := Bool.and_eq_true_iff.1 hboth
      exact hgiven (eq_of_beq hname ▸ hm)
  rw [field?, hswap]
  cases given name <;> rfl

/-- A parameter that is given has its value, and any other has its default. -/
theorem given_bind {α β : Type} [Recorded α] {depth : Nat} {a default : α} {name : String}
    (h : Kept depth a) (hfield : field? ms name = some (some (toJson a)))
    (f : α → Option β) :
    (withDefault (ms.filter fun m => given m.1) name default >>= f) =
      f (if given name then a else default) := by
  cases hgiven : given name with
  | true =>
    have hsome := field?_filter given ms name
    rw [hgiven, if_pos rfl, hfield] at hsome
    exact withDefault_bind h hsome f
  | false =>
    have hnone := field?_filter given ms name
    rw [hgiven, if_neg Bool.false_ne_true] at hnone
    rw [withDefault, hnone]
    rfl

theorem kept_reservePolicy {depth : Nat} (p : ReservePolicy) : Kept depth p where
  read := by cases p <;> rfl
  within := .str

theorem kept_unfreezePolicy {depth : Nat} (p : UnfreezePolicy) : Kept depth p where
  read := by cases p <;> rfl
  within := .str

/-- **What is given is kept**, and defaults hold for what is not. -/
theorem ofMembers?_filter (given : String → Bool) (c : Config) :
    ofMembers? (c.members.filter fun m => given m.1) = some (c.restrict given) := by
  have hnumber : ∀ n : UInt64, Kept 0 n := kept_uint64
  have hcount : ∀ n : UInt32, Kept 0 n := kept_uint32
  have hamount : ∀ a : Amount, Kept 0 a := kept_amount
  have hflag : ∀ b : Bool, Kept 0 b := kept_bool
  have hreserve : ∀ p : ReservePolicy, Kept 0 p := kept_reservePolicy
  have hunfreeze : ∀ p : UnfreezePolicy, Kept 0 p := kept_unfreezePolicy
  have hknown : ((c.members.filter fun m => given m.1).all (fields.contains ·.1)) = true := by
    refine List.all_eq_true.2 fun m hm => ?_
    have hfield : m.1 ∈ fields :=
      map_fst_members c ▸ List.mem_map_of_mem (List.mem_filter.1 hm).1
    exact List.contains_iff_mem.2 hfield
  rw [ofMembers?, hknown]
  show (withDefault _ _ _ >>= _) = _
  rw [given_bind (hnumber c.stakeWindowSecs) rfl,
    given_bind (hnumber c.resolutionTimeoutSecs) rfl, given_bind (hnumber c.cooldownSecs) rfl,
    given_bind (hnumber c.escalationMultiplierBps) rfl, given_bind (hcount c.maxCounters) rfl,
    given_bind (hamount c.counterBaseFee) rfl, given_bind (hnumber c.counterExtensionSecs) rfl,
    given_bind (hnumber c.maxTotalExtensionSecs) rfl, given_bind (hnumber c.timeoutBurnBps) rfl,
    given_bind (hnumber c.incentiveBps) rfl, given_bind (hflag c.routeExcessFeeToPool) rfl,
    given_bind (hreserve c.reservePolicy) rfl, given_bind (hunfreeze c.unfreezePolicy) rfl,
    given_bind (hnumber c.subsidyBaseBps) rfl, given_bind (hnumber c.subsidyMaxBps) rfl]
  rfl

/-- What is left of members with different names is told by the names that are left. -/
theorem eq_filter_of_sublist {members : List (String × Json)} (h : ms.Sublist members)
    (hnodup : (members.map (·.1)).Nodup) :
    ms = members.filter fun m => (ms.map (·.1)).contains m.1 := by
  induction h with
  | slnil => rfl
  | @cons ms members m hms ih =>
    obtain ⟨hfresh, hrest⟩ := List.nodup_cons.1 hnodup
    have hgone : m.1 ∉ ms.map (·.1) := fun hmem => hfresh ((hms.map _).subset hmem)
    rw [List.filter_cons_of_neg (by simpa using hgone)]
    exact ih hrest
  | @cons_cons ms members m hms ih =>
    obtain ⟨hfresh, hrest⟩ := List.nodup_cons.1 hnodup
    rw [List.filter_cons_of_pos (by simp)]
    refine congrArg (m :: ·) ((ih hrest).trans (List.filter_congr fun m' hm' => ?_))
    have hne : m'.1 ≠ m.1 := fun heq => hfresh (List.mem_map.2 ⟨m', hm', heq⟩)
    simp [hne]

/-- The parameters of which a line is among some lines keep their values. -/
def keeping (lines : List String) (c : Config) : Config :=
  c.restrict fun name => c.members.any fun m => m.1 == name && lines.contains (yamlLine m)

/-- The name of a parameter is what stands before the colon of its line. -/
theorem fst_eq_of_yamlLine_eq {m m' : String × Json} (hm : m ∈ c.members) (hm' : m' ∈ c.members)
    (h : yamlLine m = yamlLine m') : m.1 = m'.1 := by
  have hkey : ∀ m ∈ c.members, (plainRun false (yamlLine m).toList).map (·.1) =
      some m.1.toList := by
    intro m hm
    rw [toList_yamlLine, lineChars,
      Word.plainRun (plainLine_of_mem hm).key.chars (plainRun_colon rfl)]
    rfl
  have hkeys := hkey m hm
  rw [h, hkey m' hm'] at hkeys
  exact (String.toList_inj.1 (Option.some.inj hkeys)).symm

/-- The names of which there is a line are those of the lines. -/
theorem any_contains_yamlLine (h : ∀ m ∈ ms, m ∈ c.members) (name : String) :
    (c.members.any fun m => m.1 == name && (ms.map yamlLine).contains (yamlLine m)) =
      (ms.map (·.1)).contains name := by
  rw [Bool.eq_iff_iff, List.any_eq_true, List.contains_iff_mem, List.mem_map]
  constructor
  · rintro ⟨m, hm, hboth⟩
    obtain ⟨hname, hline⟩ := Bool.and_eq_true_iff.1 hboth
    obtain ⟨m', hm', hsame⟩ := List.mem_map.1 (List.contains_iff_mem.1 hline)
    exact ⟨m', hm', (fst_eq_of_yamlLine_eq (h m' hm') hm hsame).trans (eq_of_beq hname)⟩
  · rintro ⟨m, hm, rfl⟩
    refine ⟨m, h m hm, Bool.and_eq_true_iff.2 ⟨beq_self_eq_true _, ?_⟩⟩
    exact List.contains_iff_mem.2 (List.mem_map_of_mem hm)

/-- **A text of lines** of a configuration is taken for what they keep of it. -/
theorem ofYaml_lines {lines : List String} (h : lines.Sublist c.yamlLines) :
    ofYaml (String.join lines) =
      ((c.keeping lines).validate.mapError .invalid).map fun _ => c.keeping lines := by
  obtain ⟨ms, hms, rfl⟩ := List.sublist_map_iff.1 h
  have hmem : ∀ m ∈ ms, m ∈ c.members := fun m => (hms.subset ·)
  have hkeeping : c.keeping (ms.map yamlLine) = c.restrict (ms.map (·.1)).contains :=
    congrArg c.restrict (funext (any_contains_yamlLine hmem))
  have hread : ofJson? (.obj ms) = some (c.keeping (ms.map yamlLine)) := by
    have hfilter := ofMembers?_filter (ms.map (·.1)).contains c
    rwa [← eq_filter_of_sublist hms (map_fst_members c ▸ nodup_fields), ← hkeeping] at hfilter
  rw [ofYaml, read?_lines hmem, Option.bind_some, hread]
  dsimp only
  cases (c.keeping (ms.map yamlLine)).validate <;> rfl

/-- All lines keep everything. -/
theorem keeping_yamlLines (c : Config) : c.keeping c.yamlLines = c := by
  have hgiven : ∀ m ∈ c.members, (fields.contains m.1) = true := fun m hm =>
    List.contains_iff_mem.2 (map_fst_members c ▸ List.mem_map_of_mem hm)
  have hkeeping : c.keeping c.yamlLines = c.restrict fields.contains :=
    congrArg c.restrict (funext (any_contains_yamlLine fun m hm => hm))
  have hsome := ofMembers?_filter fields.contains c
  have hall := ofMembers?_filter (fun _ => true) c
  rw [List.filter_eq_self.2 hgiven] at hsome
  rw [List.filter_eq_self.2 fun _ _ => rfl, hsome] at hall
  rw [hkeeping, Option.some.inj hall]
  rfl

end Config

open Config in
/-- **Configurations survive YAML.** The text of a configuration is read as this configuration if
it is valid, and refused with what is wrong with it otherwise. Every line ends where the text for
its parameter ends. If any lines are deleted, then what is left is read as the configuration in
which the parameters without a line have their defaults, if this one is valid, and is refused with
what is wrong with that one otherwise. -/
theorem configurations_survive_yaml (c : Config) :
    ofYaml c.yaml = (c.validate.mapError .invalid).map (fun _ => c) ∧
    (∀ line ∈ c.yamlLines, ∃ body, line = body ++ "\n" ∧ '\n' ∉ body.toList) ∧
    ∀ lines, lines.Sublist c.yamlLines →
      ofYaml (String.join lines) =
        ((c.keeping lines).validate.mapError .invalid).map fun _ => c.keeping lines := by
  refine ⟨?_, fun line => exists_body_of_mem_yamlLines, fun lines => ofYaml_lines⟩
  have hall := ofYaml_lines (List.Sublist.refl c.yamlLines)
  rwa [keeping_yamlLines] at hall

/-- A valid configuration with a stake window as long as the timeout is by default. -/
def Sample.longWindow : Config :=
  { Config.default with
    stakeWindowSecs := 1209600
    resolutionTimeoutSecs := 1209601
    cooldownSecs := 18446744073709551615
    reservePolicy := .earmarked }

open Config in
/-- Two of its lines alone are valid too, but without a longer timeout its window is not. -/
theorem window_needs_its_timeout :
    ofYaml Sample.longWindow.yaml = .ok Sample.longWindow ∧
    ofYaml "cooldown_secs: 18446744073709551615\nreserve_policy: earmarked\n" =
      .ok { default with cooldownSecs := 18446744073709551615, reservePolicy := .earmarked } ∧
    ofYaml "stake_window_secs: 1209600\n" =
      .error (.invalid (.timeoutWithinWindow 1209600 1209600)) := by
  obtain ⟨hwhole, -, hdeleted⟩ := configurations_survive_yaml Sample.longWindow
  have htwo := hdeleted
    ["cooldown_secs: 18446744073709551615\n", "reserve_policy: earmarked\n"] (by decide +kernel)
  have hone := hdeleted ["stake_window_secs: 1209600\n"] (by decide +kernel)
  have hkept : Sample.longWindow.keeping
      ["cooldown_secs: 18446744073709551615\n", "reserve_policy: earmarked\n"] =
      { default with cooldownSecs := 18446744073709551615, reservePolicy := .earmarked } := by
    decide +kernel
  have hwindow : Sample.longWindow.keeping ["stake_window_secs: 1209600\n"] =
      { default with stakeWindowSecs := 1209600 } := by
    decide +kernel
  rw [hkept] at htwo
  rw [hwindow] at hone
  exact ⟨hwhole, htwo, hone⟩

end Arbitration
