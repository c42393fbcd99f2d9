import Arbitration.Proofs.Completion
import Arbitration.Proofs.JsonText
import Arbitration.Proofs.Turns

/-!
# No proposal is put down twice

The oracle signs **the canonical text** of a dispute's number, a nonce and the terms. That text is
written from the front with a fixed part before each of the three (`Binding.toList_canonical`), so
it can be read back, and the same bytes are never signed for anything else.

A run keeps one nonce for all disputes together, and a proposal has to come with a greater one. So
the log counts upwards (`Engine.Counts`): the nonces of all proposals so far are in ascending order
and the last one is the one that the store keeps. Other rounds, other disputes and operations that
fail do not set it back.
-/

namespace Arbitration

/-! ### What is signed -/

namespace Binding

/-- The members of what is signed. -/
def members (b : Binding) : List (String × Json) := [
  ("dispute_id", .nat b.dispute.toNat),
  ("domain", .str domain),
  ("nonce", .nat b.nonce.toNat),
  ("text", .str b.text)]

/-- What is signed, as a value. -/
def json (b : Binding) : Json := .obj b.members

/-- The canonical text up to the number of the dispute. -/
def opening : List Char := '\x7b' :: (Json.stringChars "dispute_id" ++ [':'])

/-- The canonical text between the number of the dispute and the nonce. -/
def middle : List Char :=
  Json.stringChars "domain" ++ ':' :: (Json.stringChars domain ++ ',' ::
    (Json.stringChars "nonce" ++ [':']))

/-- The canonical text between the nonce and the terms. -/
def closing : List Char := Json.stringChars "text" ++ [':', '"']

/-- The members are in the order of their keys as they are. -/
theorem sorted_members (b : Binding) : Json.sortByKey b.members = b.members := by
  refine Json.sortByKey_of_sorted ?_
  show List.Pairwise _ ["dispute_id", "domain", "nonce", "text"]
  decide +kernel

/-- So are they as they are written. -/
theorem sorted_canonicalMembers (b : Binding) :
    Json.sortByKey (Json.canonicalMembers b.members) = Json.canonicalMembers b.members := by
  refine Json.sortByKey_of_sorted ?_
  show List.Pairwise _ [String.ofList (Json.stringChars "dispute_id"),
    String.ofList (Json.stringChars "domain"), String.ofList (Json.stringChars "nonce"),
    String.ofList (Json.stringChars "text")]
  decide +kernel

/-- A number of sixty-four bits is no float. -/
theorem firstFloat_nat (n : UInt64) : (Json.nat n.toNat).firstFloat = none := by
  have hlt := n.toNat_lt
  rw [Json.nat, Json.firstFloat, if_pos]
  simp only [Json.minInt, Json.maxInt]
  omega

/-- What is signed is the canonical text of the value, so that there always is one. -/
theorem ofJson_json (b : Binding) : Canonical.ofJson b.json = .ok b.canonical := by
  have hnormal : b.json.normal = b.json := by
    have hmembers : Json.normalMembers b.members = b.members := by
      simp [members, Json.normalMembers, Json.normal, Json.nat]
    rw [json, Json.normal, hmembers, sorted_members]
  have hwhole : b.json.firstFloat = none := by
    simp only [json, members, Json.firstFloat, Json.firstFloatMembers, DisputeId.toNat,
      firstFloat_nat, Option.none_or]
  rw [Canonical.ofJson, hnormal, hwhole]
  rfl

/-- **What is signed**, from the front: the dispute, the domain, the nonce and the terms. -/
theorem toList_canonical (b : Binding) :
    b.canonical.text.toList = opening ++ (Json.natChars b.dispute.toNat ++ ',' :: (middle ++
      (Json.natChars b.nonce.toNat ++ ',' :: (closing ++
        (Json.escape b.text.toList ++ '"' :: ['\x7d']))))) := by
  rw [canonical, ← members, String.toList_ofList, Json.canonicalChars, sorted_canonicalMembers]
  simp only [members, Json.canonicalMembers, Json.joinMembers, Json.canonicalChars, Json.chars,
    Json.nat, Json.intChars, opening, middle, closing, Json.stringChars, String.toList_ofList,
    List.cons_append, List.append_assoc, List.nil_append]

/-- **The same bytes are signed for nothing else.** -/
theorem canonical_inj {a b : Binding} (h : a.canonical.bytes = b.canonical.bytes) : a = b := by
  have htext := congrArg String.toList (Bytes.ofText_inj h)
  rw [toList_canonical, toList_canonical] at htext
  -- the fixed parts are the same, and what stands between them is read off from the front
  obtain ⟨hdispute, hafter⟩ := Json.natChars_append_inj (List.append_cancel_left htext)
  obtain ⟨hnonce, hlast⟩ := Json.natChars_append_inj (List.append_cancel_left hafter)
  obtain ⟨hterms, -⟩ := Json.escape_append_inj (List.append_cancel_left hlast)
  rw [DisputeId.toNat_inj] at hdispute
  rw [UInt64.toNat_inj] at hnonce
  cases a
  cases b
  rw [Binding.mk.injEq]
  exact ⟨hdispute, hnonce, hterms⟩

end Binding

/-! ### Nonces -/

/-- The nonce of a proposal. -/
def Event.nonce? : Event → Option UInt64
  | .proposalSubmitted nonce _ => some nonce
  | _ => none

namespace EventLog

/-- The nonces of the proposals in the log, over all disputes, oldest first. -/
def nonces (l : EventLog) : List UInt64 := l.records.filterMap (·.event.nonce?)

theorem nonces_append (l : EventLog) (dispute : DisputeId) (time : Timestamp) (event : Event) :
    (l.append dispute time event).nonces = l.nonces ++ event.nonce?.toList := by
  rw [nonces, append, List.filterMap_append, ← nonces, List.filterMap_cons, List.filterMap_nil]
  cases event.nonce? <;> rfl

/-- An operation adds the nonces of its own events. -/
theorem nonces_extend (l : EventLog) (time : Timestamp) (events : List (DisputeId × Event)) :
    (l.extend time events).nonces = l.nonces ++ events.filterMap (·.2.nonce?) := by
  induction events generalizing l with
  | nil => exact (List.append_nil _).symm
  | cons p rest ih =>
    rw [extend, List.foldl_cons, ← extend, ih, nonces_append, List.append_assoc,
      List.filterMap_cons]
    cases p.2.nonce? <;> rfl

end EventLog

/-- What the oracle signed for an operation to succeed. -/
def Operation.binding? : Operation → Option Binding
  | submit _ id p => some ⟨id, p.nonce, p.text⟩
  | _ => none

/-- A resolution is about no proposal. -/
theorem Resolves.nonces {e : Engine} {d : Dispute} {r : Resolution} {moves : List Move}
    {events : List (DisputeId × Event)} {f : Footprint} (h : Resolves e d r moves events f)
    (hevents : events.filterMap (·.2.nonce?) = []) : f.events.filterMap (·.2.nonce?) = [] := by
  cases h with
  | @intro burned freed registry released pending store admitted releases written licensed =>
    have hpending : pending.filterMap (·.2.nonce?) = [] := by
      cases releases <;> rfl
    have hreport : (r.report d burned).filterMap (·.2.nonce?) = [] := by
      unfold Resolution.report
      split <;> split <;> split <;> rfl
    show (events ++ pending ++ r.report d burned).filterMap (·.2.nonce?) = []
    rw [List.filterMap_append, List.filterMap_append, hevents, hpending, hreport]
    rfl

/-- An operation that brings this nonce along, or none: what it reports and what it writes. -/
structure Engine.Brings (e : Engine) (nonce : Option UInt64) (f : Footprint) : Prop where
  reported : f.events.filterMap (·.2.nonce?) = nonce.toList
  written : f.store.nonce = nonce.or e.store.nonce
  greater : ∀ n last, nonce = some n → e.store.nonce = some last → last < n

/-- Where none is reported and none is written, none was brought. -/
theorem Engine.Brings.none {e : Engine} {f : Footprint} {w : StoreWrite}
    (hevents : f.events.filterMap (·.2.nonce?) = []) (hwritten : e.store.write w = .ok f.store)
    (hnone : w.nonce = .none) : e.Brings .none f := by
  have hlast := Store.nonce_of_write hwritten
  rw [hnone] at hlast
  exact ⟨hevents, hlast, fun n last h => by cases h⟩

theorem Resolves.brings {e : Engine} {d : Dispute} {r : Resolution} {moves : List Move}
    {events : List (DisputeId × Event)} {f : Footprint} (h : Resolves e d r moves events f)
    (hevents : events.filterMap (·.2.nonce?) = []) : e.Brings none f := by
  obtain ⟨waiting, hwritten⟩ := h.exists_written
  exact .none (h.nonces hevents) hwritten rfl

/-- **One operation.** A proposal brings a greater nonce than the last one, reports it, and leaves
it as the last one. No other operation has to do with nonces. -/
theorem Succeeds.brings {e : Engine} {op : Operation} {answer : Answer} {f : Footprint}
    (hs : Succeeds e op answer f) : e.Brings (op.binding?.map (·.nonce)) f := by
  cases hs with
  | initiate admitted setAside counted frozen dated written => exact .none rfl written rfl
  | deposit admitted added written => exact .none rfl written rfl
  | grantSubsidy admitted written => exact .none rfl written rfl
  | submit admitted written =>
    obtain ⟨-, -, -, -, -, -, -, -, hgreater⟩ := Engine.admitProposal_eq_ok_iff.1 admitted
    refine ⟨rfl, Store.nonce_of_write written, fun n last hn hlast => ?_⟩
    cases hn
    exact hgreater last hlast
  | accept admitted one written => exact .none rfl written rfl
  | agree admitted both resolves => exact resolves.brings rfl
  | counter admitted routes opened dated written => exact .none rfl written rfl
  | lapse admitted draws resolves =>
    refine resolves.brings ?_
    cases draws with
    | intro owes returned found => split <;> split <;> rfl
  | deadlock admitted resolves => exact resolves.brings rfl
  | retry admitted freed written => exact .none rfl written rfl

/-! ### Every run -/

/-- The log counts upwards: its nonces are those that the oracle signed, in ascending order, and
the store keeps the last one. -/
structure Engine.Counts (past : List Operation) (e : Engine) : Prop where
  signed : e.log.nonces = (past.filterMap Operation.binding?).map (·.nonce)
  ascending : e.log.nonces.Pairwise (· < ·)
  last : e.store.nonce = e.log.nonces.getLast?

/-- What exceeds the last of some ascending nonces goes after them. -/
theorem pairwise_lt_concat {nonces : List UInt64} {n : UInt64} (h : nonces.Pairwise (· < ·))
    (hlast : ∀ last, nonces.getLast? = some last → last < n) :
    (nonces ++ [n]).Pairwise (· < ·) := by
  refine List.pairwise_append.2 ⟨h, List.pairwise_singleton _ _, fun m hm n' hn' => ?_⟩
  obtain rfl := List.mem_singleton.1 hn'
  have hsome := List.getLast?_isSome.2 (List.ne_nil_of_mem hm)
  obtain ⟨last, hget⟩ := Option.isSome_iff_exists.1 hsome
  obtain ⟨before, rfl⟩ := List.getLast?_eq_some_iff.1 hget
  rcases List.mem_append.1 hm with hbefore | hsame
  · exact UInt64.lt_trans ((List.pairwise_append.1 h).2.2 m hbefore last List.mem_cons_self)
      (hlast last hget)
  · rw [List.mem_singleton.1 hsame]
    exact hlast last hget

namespace Engine.Counts

variable {past : List Operation} {e e' : Engine}

theorem of_idle (h : e.Counts past) (hidle : e.Idle e') : e'.Counts past := by
  refine ⟨?_, ?_, ?_⟩
  · rw [hidle.log]
    exact h.signed
  · rw [hidle.log]
    exact h.ascending
  · rw [hidle.log, hidle.nonce]
    exact h.last

/-- One more operation leaves the count ascending. -/
theorem having {op : Operation} {answer : Answer} {f : Footprint} {ledger : Ledger}
    (h : e.Counts past) (hs : Succeeds e op answer f) :
    (e.having f ledger).Counts (past ++ [op]) := by
  obtain ⟨hreported, hwritten, hgreater⟩ := hs.brings
  have hnonces : (e.having f ledger).log.nonces =
      e.log.nonces ++ (op.binding?.map (·.nonce)).toList := by
    rw [← hreported]
    exact EventLog.nonces_extend e.log e.now f.events
  have hlast : (e.having f ledger).store.nonce = f.store.nonce := rfl
  refine ⟨?_, ?_, ?_⟩
  · rw [hnonces, h.signed, List.filterMap_append, List.map_append, List.filterMap_cons,
      List.filterMap_nil]
    cases op.binding? <;> rfl
  · rw [hnonces]
    cases hbinding : op.binding?.map (·.nonce) with
    | none => simpa using h.ascending
    | some n =>
      refine pairwise_lt_concat h.ascending fun last hl => hgreater n last hbinding ?_
      rw [h.last, hl]
  · rw [hlast, hwritten, hnonces, h.last]
    cases op.binding?.map (·.nonce) with
    | none => simp
    | some n => simp

/-- Where nonces ascend, no two operations rest on the same signed bytes. -/
theorem nodup (h : e.Counts past) :
    ((past.filterMap Operation.binding?).map (·.canonical.bytes)).Nodup := by
  have hascending := h.ascending
  rw [h.signed, List.pairwise_map] at hascending
  refine List.pairwise_map.2 (hascending.imp fun hlt hbytes => ?_)
  rw [Binding.canonical_inj hbytes] at hlt
  exact UInt64.lt_irrefl _ hlt

end Engine.Counts

/-- The log of a clean run counts upwards. -/
theorem CleanRun.counts {start : Engine} {turns : List Turn} (h : CleanRun start turns) :
    (start.run turns).Counts (start.history turns) := by
  have hstart : start.Counts [] := by
    obtain ⟨-, -, -, -, hstore, hlog⟩ := h.fresh.parts
    refine ⟨?_, ?_, ?_⟩
    · rw [hlog]
      rfl
    · rw [hlog]
      exact List.Pairwise.nil
    · rw [hlog, hstore]
      rfl
  exact h.fresh.sound.history_induction (P := fun past e => e.Counts past)
    (fun hidle hcounts => hcounts.of_idle hidle) (fun _ hs _ hcounts => hcounts.having hs)
    h.clean hstart

/-- **No proposal is replayed.** In every state of a clean run the nonces of all proposals in the
log are in ascending order over all disputes, the store keeps the last of them, and no operation
that fails changes that, whether or not it is taken back in full. The bytes that the oracle signs
are those of one dispute, nonce and text only, and no two proposals that were put down in the run
rest on the same bytes. -/
theorem no_proposal_is_replayed {start : Engine} {turns : List Turn} (h : CleanRun start turns) :
    (start.run turns).log.nonces.Pairwise (· < ·) ∧
      (start.run turns).store.nonce = (start.run turns).log.nonces.getLast? ∧
      (∀ op err e', (start.run turns).perform op = (.error err, e') →
        e'.store.nonce = (start.run turns).store.nonce) ∧
      (∀ a b : Binding, a.canonical.bytes = b.canonical.bytes → a = b) ∧
      (((start.history turns).filterMap Operation.binding?).map (·.canonical.bytes)).Nodup := by
  have hcounts := h.counts
  refine ⟨hcounts.ascending, hcounts.last, fun op err e' hfailed => ?_,
    fun a b hbytes => Binding.canonical_inj hbytes, hcounts.nodup⟩
  rw [Engine.store_of_error h.sound.keyed hfailed]

/-- In the sample negotiation the proposal is the first, and what the oracle signed for it stands
for no other terms. -/
theorem sample_proposal_is_the_first :
    CleanRun Sample.engine Sample.negotiation ∧
      (Sample.engine.run Sample.negotiation).log.nonces = [1] ∧
      (Sample.engine.run Sample.negotiation).store.nonce = some 1 ∧
      ∀ b : Binding, b.canonical.bytes = Sample.signed.bytes → b.text = "terms" := by
  have hclean := Sample.negotiation_clean
  have hnonces : (Sample.engine.run Sample.negotiation).log.nonces = [1] := by
    rw [Sample.run_negotiation]
    decide +kernel
  obtain ⟨-, hlast, -, hinj, -⟩ := no_proposal_is_replayed hclean
  rw [hnonces] at hlast
  refine ⟨hclean, hnonces, hlast, fun b hbytes => ?_⟩
  rw [← Sample.canonical_binding] at hbytes
  rw [hinj _ _ hbytes]

end Arbitration
