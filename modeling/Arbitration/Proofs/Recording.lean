import Arbitration.Proofs.Instants
import Arbitration.Proofs.JsonReading
import Arbitration.Record.Event

/-!
# Reading records back

What is written for a value is read back as that value (`Kept`). For numbers, names and texts this
is a fact about each of them. A record is read field by field, and each field finds its own value,
because no two members of a record have the same name (`required_bind`, `optional_bind`). An event
in the log shares an object with its place there, and the names of the place are none of its own.

Not every value of the types is read back. An account must have a name that can be referred to, and
a fraction of a second or more must belong to a leap second: `Dispute.Legible` and `Event.Legible`
say so of all accounts and instants in a record.
-/

namespace Arbitration

/-- What is written for a value is read back, and at most `depth` of its containers stand inside
one another. -/
structure Kept {α : Type} [Recorded α] (depth : Nat) (a : α) : Prop where
  read : ofJson? (toJson a) = some a
  within : (toJson a).Within depth

/-- A value that is kept is read back from its text. -/
theorem Kept.parse_text {α : Type} [Recorded α] {a : α} (h : Kept Json.maxDepth a) :
    (Json.parse (toJson a).text).bind ofJson? = some a := by
  rw [Json.parse_text h.within, Option.bind_some, h.read]

section Plain

variable {depth : Nat}

/-! ### Numbers and texts -/

theorem within_nat {n : Nat} (h : n < UInt64.size) : (Json.nat n).Within depth := by
  have hlt : (n : Int) < 18446744073709551616 := Int.ofNat_lt.2 h
  exact .int (by rw [Json.minInt]; omega) (by rw [Json.maxInt]; omega)

theorem natBelow?_nat {bound n : Nat} (h : n < bound) : (Json.nat n).natBelow? bound = some n := by
  have hcond : 0 ≤ (n : Int) ∧ (n : Int).toNat < bound := ⟨Int.natCast_nonneg n, h⟩
  exact if_pos hcond

theorem kept_bool (b : Bool) : Kept depth b := ⟨rfl, .bool⟩

theorem kept_string (s : String) : Kept depth s := ⟨rfl, .str⟩

theorem kept_uint64 (n : UInt64) : Kept depth n where
  read := by
    show ((Json.nat n.toNat).natBelow? UInt64.size).map UInt64.ofNat = _
    rw [natBelow?_nat n.toNat_lt, Option.map_some, UInt64.ofNat_toNat]
  within := within_nat n.toNat_lt

theorem kept_uint32 (n : UInt32) : Kept depth n where
  read := by
    show ((Json.nat n.toNat).natBelow? UInt32.size).map UInt32.ofNat = _
    rw [natBelow?_nat n.toNat_lt, Option.map_some, UInt32.ofNat_toNat]
  within := within_nat (Nat.lt_trans n.toNat_lt (by decide))

theorem kept_uint8 (n : UInt8) : Kept depth n where
  read := by
    show ((Json.nat n.toNat).natBelow? 256).map UInt8.ofNat = _
    rw [natBelow?_nat n.toNat_lt, Option.map_some, UInt8.ofNat_toNat]
  within := within_nat (Nat.lt_trans n.toNat_lt (by decide))

theorem kept_amount (a : Amount) : Kept depth a where
  read := by
    show ((Json.nat a.toNat).natBelow? UInt64.size).bind Amount.ofNat? = _
    rw [natBelow?_nat a.toNat_lt, Option.bind_some, Amount.ofNat?_toNat]
  within := within_nat a.toNat_lt

theorem kept_disputeId (id : DisputeId) : Kept depth id where
  read := by
    have hnumber : Kept depth id.number := kept_uint64 _
    show (ofJson? (toJson id.number) : Option UInt64).map DisputeId.mk = _
    rw [hnumber.read]
    rfl
  within := (kept_uint64 id.number).within

/-! ### Options and lists -/

/-- Whatever is not null is read as something. -/
theorem ofJson?_of_ne_null {α : Type} [Recorded α] {j : Json} (hne : j ≠ .null) :
    (ofJson? j : Option (Option α)) = (ofJson? j : Option α).map some := by
  cases j with
  | null => exact absurd rfl hne
  | _ => rfl

/-- A value that may be missing, where one that is there is never written as null. -/
theorem Kept.option {α : Type} [Recorded α] {o : Option α} (h : ∀ a ∈ o, Kept depth a)
    (hne : ∀ a : α, toJson a ≠ .null) : Kept depth o := by
  cases o with
  | none => exact ⟨rfl, .null⟩
  | some a =>
    refine ⟨(ofJson?_of_ne_null (hne a)).trans ?_, (h a rfl).within⟩
    rw [(h a rfl).read]
    rfl

theorem Kept.list {α : Type} [Recorded α] {l : List α} (h : ∀ a ∈ l, Kept depth a) :
    Kept (depth + 1) l where
  read := by
    show (l.map toJson).mapM ofJson? = Option.some l
    induction l with
    | nil => rfl
    | cons a l ih =>
      obtain ⟨ha, hl⟩ := List.forall_mem_cons.1 h
      rw [List.map_cons, List.mapM_cons, ha.read, ih hl]
      rfl
  within := .arr (List.forall_mem_map.2 fun a ha => (h a ha).within)

/-! ### Names, instants and bytes -/

/-- A value that is a text is read from that text. -/
theorem text_bind {α : Type} {j : Json} {s : String} (h : j.text? = some s)
    (f : String → Option α) : j.text?.bind f = f s := by
  rw [h, Option.bind_some]

theorem kept_outcome (o : Outcome) : Kept depth o where
  read := by cases o <;> rfl
  within := .str

theorem kept_party (p : Party) : Kept depth p where
  read := by cases p <;> rfl
  within := .str

/-- A name that a record may refer to. -/
def AccountId.Admitted (a : AccountId) : Prop := ofName a.name = .ok a

instance (a : AccountId) : Decidable a.Admitted := inferInstanceAs (Decidable (_ = _))

theorem kept_accountId {a : AccountId} (h : a.Admitted) : Kept depth a where
  read := by
    refine (text_bind rfl _).trans ?_
    show (AccountId.ofName a.name).toOption = _
    rw [h]
    rfl
  within := .str

theorem kept_timestamp {t : Timestamp} (h : t.Regular) : Kept depth t where
  read := (text_bind rfl _).trans (Timestamp.read?_text_iff.2 h)
  within := .str

theorem kept_signature (s : Ed25519.Signature) : Kept depth s where
  read := by
    refine (text_bind rfl _).trans ?_
    rw [Ed25519.Signature.ofHex_hex]
    rfl
  within := .str

end Plain

/-! ### Fields -/

section Fields

variable {α β : Type} [Recorded α] {depth : Nat} {a : α} {members : List (String × Json)}
  {name : String}

/-- A record is read from its members. -/
theorem members_bind {j : Json} (h : j.members? = some members)
    (f : List (String × Json) → Option β) : (j.members? >>= f) = f members := by
  rw [h]
  rfl

/-- A field that is read where it was written. -/
theorem required_bind (h : Kept depth a)
    (hfield : Json.field? members name = some (some (toJson a))) (f : α → Option β) :
    (Json.required members name >>= f) = f a := by
  have hread : Json.required members name = some a := by
    show (Json.field? members name).bind (·.bind ofJson?) = some a
    rw [hfield]
    exact h.read
  rw [hread]
  rfl

theorem withDefault_bind {default : α} (h : Kept depth a)
    (hfield : Json.field? members name = some (some (toJson a))) (f : α → Option β) :
    (Json.withDefault members name default >>= f) = f a := by
  have hread : Json.withDefault members name default = some a := by
    rw [Json.withDefault, hfield]
    exact h.read
  rw [hread]
  rfl

theorem optional_bind {o : Option α} (h : Kept depth o)
    (hfield : Json.field? members name = some (some (toJson o))) (f : Option α → Option β) :
    (Json.optional members name >>= f) = f o := withDefault_bind h hfield f

end Fields

/-! ### Parts of a dispute -/

variable {depth : Nat}

theorem kept_digest (d : ContentDigest) : Kept (depth + 2) d where
  read := by
    have hbytes : Kept (depth + 1) d.bytes.toList := .list fun b _ => kept_uint8 b
    refine (members_bind rfl _).trans ?_
    show (Json.required _ "bytes" >>= fun bytes => (Bytes.ofList? 32 bytes).bind _) = _
    rw [required_bind hbytes rfl, Bytes.ofList?_toList]
    rfl
  within := .obj (List.forall_mem_cons.2 ⟨.str, List.forall_mem_singleton.2
    (Kept.list fun b _ => kept_uint8 b).within⟩)

theorem kept_settlement (s : Settlement) : Kept (depth + 1) s where
  read := by
    have hamount : ∀ a : Amount, Kept depth a := kept_amount
    refine (members_bind rfl _).trans ?_
    rw [required_bind (hamount s.toInitiator) rfl, required_bind (hamount s.toCounterparty) rfl,
      required_bind (hamount s.burned) rfl, required_bind (hamount s.dust) rfl,
      required_bind (hamount s.incentive) rfl]
    rfl
  within := by
    have hamount : ∀ a : Amount, (toJson a).Within depth := fun a => (kept_amount a).within
    refine .obj ?_
    simp only [List.forall_mem_cons, List.not_mem_nil, hamount, true_and, false_imp_iff,
      implies_true]

theorem kept_fallbackLicense (l : FallbackLicense) : Kept (depth + 1) l where
  read := by
    have hterms : Kept depth l.termsRef := kept_string _
    have hnumber : ∀ n : UInt64, Kept depth n := kept_uint64
    have hexclusive : Kept depth l.exclusive := kept_bool _
    refine (members_bind rfl _).trans ?_
    rw [required_bind hterms rfl, required_bind (hnumber l.durationSecs) rfl,
      required_bind (hnumber l.royaltyCapBps) rfl, withDefault_bind hexclusive rfl]
    rfl
  within := by
    have hnumber : ∀ n : UInt64, (toJson n).Within depth := fun n => (kept_uint64 n).within
    refine .obj (List.forall_mem_cons.2 ⟨.str, List.forall_mem_cons.2 ⟨hnumber _,
      List.forall_mem_cons.2 ⟨hnumber _, List.forall_mem_singleton.2 .bool⟩⟩⟩)

theorem kept_release (r : Release) : Kept (depth + 1) r where
  read := by cases r <;> rfl
  within := by
    refine .obj (List.forall_mem_cons.2 ⟨.str, ?_⟩)
    cases r with
    | aborted => exact List.forall_mem_nil _
    | _ => exact List.forall_mem_singleton.2 .str

theorem kept_proposal {p : Proposal} (h : p.submittedAt.Regular) : Kept (depth + 1) p where
  read := by
    have htext : Kept depth p.text := kept_string _
    have hnonce : Kept depth p.nonce := kept_uint64 _
    have hsignature : Kept depth p.signature := kept_signature _
    have hsubmitted : Kept depth p.submittedAt := kept_timestamp h
    refine (members_bind rfl _).trans ?_
    rw [required_bind htext rfl, required_bind hnonce rfl, required_bind hsignature rfl,
      required_bind hsubmitted rfl]
    rfl
  within := .obj (List.forall_mem_cons.2 ⟨.str, List.forall_mem_cons.2 ⟨(kept_uint64 _).within,
    List.forall_mem_cons.2 ⟨.str, List.forall_mem_singleton.2 .str⟩⟩⟩)

/-! ### Disputes -/

/-- The parties of a dispute have names that can be referred to, and its times are those of clock
readings. -/
structure Dispute.Legible (d : Dispute) : Prop where
  initiator : d.initiator.Admitted
  counterparty : d.counterparty.Admitted
  createdAt : d.createdAt.Regular
  startTime : d.startTime.Regular
  submittedAt : ∀ p ∈ d.proposal, p.submittedAt.Regular
  resolvedAt : ∀ t ∈ d.resolvedAt, t.Regular

theorem Dispute.Legible.kept {d : Dispute} (h : d.Legible) : Kept (depth + 3) d := by
  have hid : Kept (depth + 2) d.id := kept_disputeId _
  have hinitiator : Kept (depth + 2) d.initiator := kept_accountId h.initiator
  have hcounterparty : Kept (depth + 2) d.counterparty := kept_accountId h.counterparty
  have hamount : ∀ a : Amount, Kept (depth + 2) a := kept_amount
  have hflag : ∀ b : Bool, Kept (depth + 2) b := kept_bool
  have hcreated : Kept (depth + 2) d.createdAt := kept_timestamp h.createdAt
  have hstart : Kept (depth + 2) d.startTime := kept_timestamp h.startTime
  have hextension : Kept (depth + 2) d.cumulativeExtensionSecs := kept_uint64 _
  have hevidence : Kept (depth + 2) d.evidence := kept_digest _
  have hproposal : Kept (depth + 2) d.proposal :=
    .option (fun p hp => kept_proposal (h.submittedAt p hp)) fun _ => nofun
  have hcount : Kept (depth + 2) d.counterCount := kept_uint32 _
  have hfallback : Kept (depth + 2) d.fallback := kept_fallbackLicense _
  have houtcome : Kept (depth + 2) d.outcome := kept_outcome _
  have hsettlement : Kept (depth + 2) d.settlement :=
    .option (fun s _ => kept_settlement s) fun _ => nofun
  have hresolved : Kept (depth + 2) d.resolvedAt :=
    .option (fun t ht => kept_timestamp (h.resolvedAt t ht)) fun _ => nofun
  have hpending : Kept (depth + 2) d.pendingRelease :=
    .option (fun r _ => kept_release r) fun _ => nofun
  constructor
  · refine (members_bind rfl _).trans ?_
    rw [required_bind hid rfl, required_bind hinitiator rfl, required_bind hcounterparty rfl,
      required_bind (hamount d.baseStake) rfl, required_bind (hamount d.initiatorStake) rfl,
      required_bind (hamount d.counterpartyStake) rfl, required_bind (hflag d.escalated) rfl,
      required_bind hcreated rfl, required_bind hstart rfl, required_bind hextension rfl,
      required_bind hevidence rfl, optional_bind hproposal rfl,
      required_bind (hflag d.initiatorAccepted) rfl,
      required_bind (hflag d.counterpartyAccepted) rfl, required_bind hcount rfl,
      required_bind hfallback rfl, required_bind (hamount d.earmarkedIncentive) rfl,
      required_bind (hamount d.subsidy) rfl, required_bind (hflag d.resolved) rfl,
      required_bind houtcome rfl, optional_bind hsettlement rfl, optional_bind hresolved rfl,
      optional_bind hpending rfl]
    rfl
  · refine .obj ?_
    simp only [List.forall_mem_cons, List.not_mem_nil, false_imp_iff, implies_true, and_true,
      hid.within, hinitiator.within, hcounterparty.within, (hamount _).within, (hflag _).within,
      hcreated.within, hstart.within, hextension.within, hevidence.within, hproposal.within,
      hcount.within, hfallback.within, houtcome.within, hsettlement.within, hresolved.within,
      hpending.within]

/-! ### Events -/

namespace Event

/-- The accounts of an event have names that can be referred to, and its deadlines are those of
clock readings. -/
def Legible : Event → Prop
  | disputeCreated initiator counterparty _ _ _ _ stakeDeadline =>
    initiator.Admitted ∧ counterparty.Admitted ∧ stakeDeadline.Regular
  | staked _ account _ | feeBurned account _ _ | subsidyGranted account _
  | incentivePaid account _ => account.Admitted
  | fullyStaked _ deadline | counterProposed _ _ _ _ deadline => deadline.Regular
  | proposalSubmitted _ _ | proposalAccepted _ | subsidyReturned _ | burned _ _
  | incentiveSkipped _ _ | releasePending _ | releaseCompleted | fallbackLicenseApplied _
  | resolved _ _ _ _ _ _ => True

/-- **Every event** is read back from its name and its details. -/
theorem Legible.ofDetails?_members {e : Event} (h : e.Legible) :
    ofDetails? e.members e.name = some e := by
  have hamount : ∀ a : Amount, Kept 0 a := kept_amount
  have hparty : ∀ p : Party, Kept 0 p := kept_party
  have hflag : ∀ b : Bool, Kept 0 b := kept_bool
  have htext : ∀ s : String, Kept 0 s := kept_string
  have hnumber : ∀ n : UInt64, Kept 0 n := kept_uint64
  have hdigest : ∀ d : ContentDigest, Kept 2 d := kept_digest
  have haccount : ∀ {a : AccountId}, a.Admitted → Kept 0 a := kept_accountId
  have htime : ∀ {t : Timestamp}, t.Regular → Kept 0 t := kept_timestamp
  cases e with
  | disputeCreated initiator counterparty baseStake stake escalated evidence stakeDeadline =>
    obtain ⟨hinitiator, hcounterparty, hdeadline⟩ := h
    refine (required_bind (haccount hinitiator) rfl _).trans ?_
    rw [required_bind (haccount hcounterparty) rfl, required_bind (hamount baseStake) rfl,
      required_bind (hamount stake) rfl, required_bind (hflag escalated) rfl,
      required_bind (hdigest evidence) rfl, required_bind (htime hdeadline) rfl]
    rfl
  | staked party account amount =>
    refine (required_bind (hparty party) rfl _).trans ?_
    rw [required_bind (haccount h) rfl, required_bind (hamount amount) rfl]
    rfl
  | fullyStaked total deadline =>
    refine (required_bind (hamount total) rfl _).trans ?_
    rw [required_bind (htime h) rfl]
    rfl
  | proposalSubmitted nonce binding =>
    refine (required_bind (hnumber nonce) rfl _).trans ?_
    rw [required_bind (hdigest binding) rfl]
    rfl
  | proposalAccepted party => exact required_bind (hparty party) rfl _
  | feeBurned account amount routed =>
    refine (required_bind (haccount h) rfl _).trans ?_
    rw [required_bind (hamount amount) rfl, required_bind (hamount routed) rfl]
    rfl
  | counterProposed party round evidence extension deadline =>
    have hround : Kept 0 round := kept_uint32 round
    refine (required_bind (hparty party) rfl _).trans ?_
    rw [required_bind hround rfl, required_bind (hdigest evidence) rfl,
      required_bind (hnumber extension) rfl, required_bind (htime h) rfl]
    rfl
  | subsidyGranted account amount =>
    refine (required_bind (haccount h) rfl _).trans ?_
    rw [required_bind (hamount amount) rfl]
    rfl
  | subsidyReturned amount => exact required_bind (hamount amount) rfl _
  | burned amount dust =>
    refine (required_bind (hamount amount) rfl _).trans ?_
    rw [required_bind (hamount dust) rfl]
    rfl
  | incentivePaid account amount =>
    refine (required_bind (haccount h) rfl _).trans ?_
    rw [required_bind (hamount amount) rfl]
    rfl
  | incentiveSkipped owed available =>
    refine (required_bind (hamount owed) rfl _).trans ?_
    rw [required_bind (hamount available) rfl]
    rfl
  | releasePending reason => exact required_bind (htext reason) rfl _
  | releaseCompleted => rfl
  | fallbackLicenseApplied termsRef => exact required_bind (htext termsRef) rfl _
  | resolved outcome toInitiator toCounterparty burnt dust incentive =>
    have houtcome : Kept 0 outcome := kept_outcome outcome
    refine (required_bind houtcome rfl _).trans ?_
    rw [required_bind (hamount toInitiator) rfl, required_bind (hamount toCounterparty) rfl,
      required_bind (hamount burnt) rfl, required_bind (hamount dust) rfl,
      required_bind (hamount incentive) rfl]
    rfl

theorem within_members (e : Event) : ∀ m ∈ e.members, m.2.Within (depth + 2) := by
  have hname : ∀ s : String, (Json.str s).Within (depth + 2) := fun _ => .str
  have hamount : ∀ a : Amount, (toJson a).Within (depth + 2) := fun a => (kept_amount a).within
  have hnumber : ∀ n : UInt64, (toJson n).Within (depth + 2) := fun n => (kept_uint64 n).within
  have hround : ∀ n : UInt32, (toJson n).Within (depth + 2) := fun n => (kept_uint32 n).within
  have hflag : ∀ b : Bool, (toJson b).Within (depth + 2) := fun b => (kept_bool b).within
  have htext : ∀ s : String, (toJson s).Within (depth + 2) := fun s => (kept_string s).within
  have hparty : ∀ p : Party, (toJson p).Within (depth + 2) := fun p => (kept_party p).within
  have houtcome : ∀ o : Outcome, (toJson o).Within (depth + 2) := fun o => (kept_outcome o).within
  have hdigest : ∀ d : ContentDigest, (toJson d).Within (depth + 2) :=
    fun d => (kept_digest d).within
  have haccount : ∀ a : AccountId, (toJson a).Within (depth + 2) := fun _ => .str
  have htime : ∀ t : Timestamp, (toJson t).Within (depth + 2) := fun _ => .str
  cases e <;>
    simp only [members, details, List.forall_mem_cons, List.not_mem_nil, false_imp_iff,
      implies_true, and_true, hname, hamount, hnumber, hround, hflag, htext, hparty, houtcome,
      hdigest, haccount, htime]

end Event

/-! ### Places in the log -/

namespace EventRecord

/-- The place of an event in the log and the event itself have no field in common, so each finds
its own in the object that they share. -/
theorem field?_members (sequence dispute time : Json) (e : Event) :
    let members := ("sequence", sequence) :: ("dispute_id", dispute) :: ("at", time) :: e.members
    Json.field? members "sequence" = some (some sequence) ∧
      Json.field? members "dispute_id" = some (some dispute) ∧
      Json.field? members "at" = some (some time) ∧
      members.filter (!fields.contains ·.1) = e.members := by
  cases e <;> exact ⟨rfl, rfl, rfl, rfl⟩

/-- The name of an event is found among its members. -/
theorem field?_type (e : Event) : Json.field? e.members "type" = some (some (.str e.name)) := by
  cases e <;> rfl

/-- The time of a place in the log is that of a clock reading, and its event can be read back. -/
structure Legible (r : EventRecord) : Prop where
  time : r.time.Regular
  event : r.event.Legible

theorem Legible.kept {r : EventRecord} (h : r.Legible) (hsequence : r.sequence < UInt64.size) :
    Kept (depth + 3) r := by
  have hkept : Kept (depth + 2) (UInt64.ofNat r.sequence) := kept_uint64 _
  have hid : Kept (depth + 2) r.dispute := kept_disputeId _
  have hat : Kept (depth + 2) r.time := kept_timestamp h.time
  -- the log counts without a bound, but the field holds sixty-four bits
  have hnumber : (UInt64.ofNat r.sequence).toNat = r.sequence :=
    UInt64.toNat_ofNat_of_lt hsequence
  have hwritten : Json.nat r.sequence = toJson (UInt64.ofNat r.sequence) :=
    congrArg Json.nat hnumber.symm
  obtain ⟨hplace, hdispute, htime, hdetails⟩ :=
    field?_members (.nat r.sequence) (toJson r.dispute) (toJson r.time) r.event
  constructor
  · refine (members_bind rfl _).trans ?_
    rw [required_bind hkept (hwritten ▸ hplace), hdetails]
    dsimp only
    rw [field?_type]
    refine (required_bind hid hdispute _).trans ?_
    rw [required_bind hat htime, h.event.ofDetails?_members, hnumber]
    rfl
  · exact .obj (List.forall_mem_cons.2 ⟨hwritten ▸ hkept.within, List.forall_mem_cons.2
      ⟨hid.within, List.forall_mem_cons.2 ⟨hat.within, r.event.within_members⟩⟩⟩)

end EventRecord

end Arbitration
