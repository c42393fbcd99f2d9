import Arbitration.Proofs.Deadlines
import Arbitration.Proofs.Recording

/-!
# Whole seconds, and where fractions come from

An instant is had from a text, from a clock, as a second with a number, some seconds after another
one, or out of a record (`Timestamp.Obtained`). All of these but the last give whole seconds. A
record gives the instant as it was written, with its fraction, and no addition removes it: a leap
second is left behind, a fraction is carried along.

`fractions_come_from_records` says exactly what this amounts to. What is obtained is a whole second
or lies whole seconds after an instant in a record, so everything depends on the records. Unless
these hold whole seconds only, instants are not in the order of their seconds, by which cooldowns
are counted; and an error that names an instant with a fraction names another one.
-/

namespace Arbitration

/-! ### Instants in records -/

/-- The instants in a dispute. -/
def Dispute.instants (d : Dispute) : List Timestamp :=
  d.createdAt :: d.startTime :: (d.proposal.map (·.submittedAt)).toList ++ d.resolvedAt.toList

/-- The deadline that an event tells of. -/
def Event.deadline? : Event → Option Timestamp
  | disputeCreated _ _ _ _ _ _ deadline | fullyStaked _ deadline
  | counterProposed _ _ _ _ deadline => some deadline
  | _ => none

/-- The instants in a place of the log. -/
def EventRecord.instants (r : EventRecord) : List Timestamp := r.time :: r.event.deadline?.toList

/-- The instants that can be read from a value: on its own, in a dispute, or in the log. -/
inductive Json.Holds (j : Json) : Timestamp → Prop
  | alone {t : Timestamp} (read : ofJson? j = some t) : Holds j t
  | dispute {d : Dispute} {t : Timestamp} (read : ofJson? j = some d) (mem : t ∈ d.instants) :
    Holds j t
  | event {r : EventRecord} {t : Timestamp} (read : ofJson? j = some r) (mem : t ∈ r.instants) :
    Holds j t

section Reading

variable {α : Type} [Recorded α] {members : List (String × Json)} {name : String}

/-- What a field holds was read from a value. -/
theorem exists_of_required {a : α} (h : Json.required members name = some a) :
    ∃ j, ofJson? j = some a := by
  obtain ⟨value, -, h⟩ := Option.bind_eq_some_iff.1 h
  obtain ⟨j, -, hread⟩ := Option.bind_eq_some_iff.1 h
  exact ⟨j, hread⟩

theorem exists_of_optional {a : α} (h : Json.optional members name = some (some a)) :
    ∃ j, ofJson? j = some a := by
  obtain ⟨value, -, h⟩ := Option.bind_eq_some_iff.1 h
  cases value with
  | none => cases h
  | some j =>
    cases j with
    | null => cases h
    | _ =>
      obtain ⟨b, hread, hsome⟩ := Option.map_eq_some_iff.1 h
      cases hsome
      exact ⟨_, hread⟩

end Reading

/-- A reader that reads one field after another gives what its last part gives. -/
theorem forall_mem_bind {α β : Type} {x : Option α} {f : α → Option β} {P : β → Prop}
    (h : ∀ a ∈ x, ∀ b ∈ f a, P b) : ∀ b ∈ x >>= f, P b := by
  intro b hb
  obtain ⟨a, ha, hb⟩ := Option.bind_eq_some_iff.1 hb
  exact h a ha b hb

theorem regular_of_ofJson? {j : Json} {t : Timestamp} (h : ofJson? j = some t) : t.Regular := by
  obtain ⟨s, -, hread⟩ := Option.bind_eq_some_iff.1 h
  exact Timestamp.regular_of_read? hread

theorem regular_of_required {members : List (String × Json)} {name : String} {t : Timestamp}
    (h : Json.required members name = some t) : t.Regular := by
  obtain ⟨j, hread⟩ := exists_of_required h
  exact regular_of_ofJson? hread

/-- A proposal is submitted at an instant that was read. -/
theorem regular_submittedAt {j : Json} {p : Proposal} (h : ofJson? j = some p) :
    p.submittedAt.Regular := by
  obtain ⟨members, -, h⟩ := Option.bind_eq_some_iff.1 h
  obtain ⟨text, -, h⟩ := Option.bind_eq_some_iff.1 h
  obtain ⟨nonce, -, h⟩ := Option.bind_eq_some_iff.1 h
  obtain ⟨signature, -, h⟩ := Option.bind_eq_some_iff.1 h
  obtain ⟨submittedAt, hsubmitted, h⟩ := Option.bind_eq_some_iff.1 h
  cases h
  exact regular_of_required hsubmitted

/-- The instants in a dispute were read, each from its own field. -/
theorem Dispute.regular_of_mem_instants {j : Json} {d : Dispute} {t : Timestamp}
    (h : ofJson? j = some d) (ht : t ∈ d.instants) : t.Regular := by
  -- of the twenty-three fields four hold instants
  obtain ⟨members, -, h⟩ := Option.bind_eq_some_iff.1 h
  obtain ⟨id, -, h⟩ := Option.bind_eq_some_iff.1 h
  obtain ⟨initiator, -, h⟩ := Option.bind_eq_some_iff.1 h
  obtain ⟨counterparty, -, h⟩ := Option.bind_eq_some_iff.1 h
  obtain ⟨baseStake, -, h⟩ := Option.bind_eq_some_iff.1 h
  obtain ⟨initiatorStake, -, h⟩ := Option.bind_eq_some_iff.1 h
  obtain ⟨counterpartyStake, -, h⟩ := Option.bind_eq_some_iff.1 h
  obtain ⟨escalated, -, h⟩ := Option.bind_eq_some_iff.1 h
  obtain ⟨createdAt, hcreated, h⟩ := Option.bind_eq_some_iff.1 h
  obtain ⟨startTime, hstart, h⟩ := Option.bind_eq_some_iff.1 h
  obtain ⟨extension, -, h⟩ := Option.bind_eq_some_iff.1 h
  obtain ⟨evidence, -, h⟩ := Option.bind_eq_some_iff.1 h
  obtain ⟨proposal, hproposal, h⟩ := Option.bind_eq_some_iff.1 h
  obtain ⟨initiatorAccepted, -, h⟩ := Option.bind_eq_some_iff.1 h
  obtain ⟨counterpartyAccepted, -, h⟩ := Option.bind_eq_some_iff.1 h
  obtain ⟨counterCount, -, h⟩ := Option.bind_eq_some_iff.1 h
  obtain ⟨fallback, -, h⟩ := Option.bind_eq_some_iff.1 h
  obtain ⟨earmarked, -, h⟩ := Option.bind_eq_some_iff.1 h
  obtain ⟨subsidy, -, h⟩ := Option.bind_eq_some_iff.1 h
  obtain ⟨resolved, -, h⟩ := Option.bind_eq_some_iff.1 h
  obtain ⟨outcome, -, h⟩ := Option.bind_eq_some_iff.1 h
  obtain ⟨settlement, -, h⟩ := Option.bind_eq_some_iff.1 h
  obtain ⟨resolvedAt, hresolved, h⟩ := Option.bind_eq_some_iff.1 h
  obtain ⟨pendingRelease, -, h⟩ := Option.bind_eq_some_iff.1 h
  cases h
  simp only [instants, List.cons_append, List.mem_cons, List.mem_append, Option.mem_toList,
    Option.map_eq_some_iff] at ht
  rcases ht with rfl | rfl | ⟨p, rfl, rfl⟩ | rfl
  · exact regular_of_required hcreated
  · exact regular_of_required hstart
  · obtain ⟨value, hread⟩ := exists_of_optional hproposal
    exact regular_submittedAt hread
  · obtain ⟨value, hread⟩ := exists_of_optional hresolved
    exact regular_of_ofJson? hread

/-- So was the deadline of an event. -/
theorem Event.regular_of_ofDetails? {details : List (String × Json)} {name : String} :
    ∀ e ∈ ofDetails? details name, ∀ t ∈ e.deadline?, t.Regular := by
  have hdeadline : ∀ {name : String} {e : Event}, ∀ deadline ∈ Json.required details name,
      e.deadline? = some deadline → ∀ t ∈ e.deadline?, t.Regular := by
    intro name e deadline hread hsome t ht
    cases hsome.symm.trans ht
    exact regular_of_required hread
  unfold ofDetails?
  split
  case h_1 =>
    refine forall_mem_bind fun initiator _ => forall_mem_bind fun counterparty _ => ?_
    refine forall_mem_bind fun baseStake _ => forall_mem_bind fun stake _ => ?_
    refine forall_mem_bind fun escalated _ => forall_mem_bind fun evidence _ => ?_
    refine forall_mem_bind fun deadline hread => ?_
    rintro e ⟨⟩
    exact hdeadline deadline hread rfl
  case h_3 =>
    refine forall_mem_bind fun total _ => forall_mem_bind fun deadline hread => ?_
    rintro e ⟨⟩
    exact hdeadline deadline hread rfl
  case h_7 =>
    refine forall_mem_bind fun party _ => forall_mem_bind fun round _ => ?_
    refine forall_mem_bind fun evidence _ => forall_mem_bind fun extension _ => ?_
    refine forall_mem_bind fun deadline hread => ?_
    rintro e ⟨⟩
    exact hdeadline deadline hread rfl
  -- no other event has one
  all_goals
    repeat refine forall_mem_bind fun _ _ => ?_
    rintro e ⟨⟩ t ⟨⟩

/-- And so was the time of a place in the log. -/
theorem EventRecord.regular_of_mem_instants {j : Json} {r : EventRecord} {t : Timestamp}
    (h : ofJson? j = some r) (ht : t ∈ r.instants) : t.Regular := by
  obtain ⟨members, -, h⟩ := Option.bind_eq_some_iff.1 h
  obtain ⟨sequence, -, h⟩ := Option.bind_eq_some_iff.1 h
  obtain ⟨field, -, h⟩ := Option.bind_eq_some_iff.1 h
  obtain ⟨tag, -, h⟩ := Option.bind_eq_some_iff.1 h
  obtain ⟨name, -, h⟩ := Option.bind_eq_some_iff.1 h
  obtain ⟨dispute, -, h⟩ := Option.bind_eq_some_iff.1 h
  obtain ⟨time, htime, h⟩ := Option.bind_eq_some_iff.1 h
  obtain ⟨event, hevent, h⟩ := Option.bind_eq_some_iff.1 h
  cases h
  simp only [instants, List.mem_cons, Option.mem_toList] at ht
  rcases ht with rfl | hdeadline
  · exact regular_of_required htime
  · exact Event.regular_of_ofDetails? event hevent t hdeadline

/-- Whatever a value holds is read back from what is written for it. -/
theorem Json.Holds.regular {j : Json} {t : Timestamp} (h : j.Holds t) : t.Regular := by
  cases h with
  | alone read => exact regular_of_ofJson? read
  | dispute read mem => exact Dispute.regular_of_mem_instants read mem
  | event read mem => exact EventRecord.regular_of_mem_instants read mem

/-! ### Every way to an instant -/

namespace Timestamp

variable {t u : Timestamp} {records : Json → Prop}

/-- The instants that can be had, one from another and from records. -/
inductive Obtained (records : Json → Prop) : Timestamp → Prop
  | parsed {s : String} {t : Timestamp} (parse : parse s = .ok t) : Obtained records t
  /-- From a clock, or any other instant. -/
  | truncated (t : Timestamp) : Obtained records t.truncate
  | numbered {n : Int} {t : Timestamp} (epoch : ofEpoch n = .ok t) : Obtained records t
  | later {t u : Timestamp} {secs : UInt64} (earlier : Obtained records t)
    (add : t.addSeconds secs = .ok u) : Obtained records u
  | held {j : Json} {t : Timestamp} (record : records j) (holds : j.Holds t) : Obtained records t

/-- The records hold whole seconds only. -/
def WholeIn (records : Json → Prop) : Prop :=
  ∀ j, records j → ∀ t, j.Holds t → t.isWhole = true

theorem isWhole_truncate (t : Timestamp) : t.truncate.isWhole = true := rfl

theorem truncate_eq_self_iff : t.truncate = t ↔ t.isWhole = true := by
  constructor
  · intro h
    exact h ▸ t.isWhole_truncate
  · intro h
    exact ext rfl (isWhole_iff.1 h).symm

/-- A text in the strict form names a whole second. -/
theorem isWhole_of_parse {s : String} (h : parse s = .ok t) : t.isWhole = true := by
  unfold parse at h
  split at h
  · cases h
  · split at h
    · cases h
      exact isWhole_truncate _
    · cases h

theorem isWhole_of_ofEpoch {n : Int} (h : ofEpoch n = .ok t) : t.isWhole = true := by
  unfold ofEpoch at h
  split at h
  · rename_i u hparts
    cases h
    exact isWhole_iff.2 (ofParts?_eq_some_iff.1 hparts).2
  · cases h

theorem Obtained.of_isWhole (h : t.isWhole = true) : Obtained records t :=
  truncate_eq_self_iff.2 h ▸ .truncated t

/-- **What is obtained** is a whole second, or lies whole seconds after an instant in a record. -/
theorem obtained_iff : Obtained records t ↔
    t.isWhole = true ∨ ∃ j u secs, records j ∧ j.Holds u ∧ u.addSeconds secs = .ok t := by
  constructor
  · intro h
    induction h with
    | parsed parse => exact .inl (isWhole_of_parse parse)
    | truncated t => exact .inl t.isWhole_truncate
    | numbered epoch => exact .inl (isWhole_of_ofEpoch epoch)
    | held record holds => exact .inr ⟨_, _, 0, record, holds, addSeconds_zero _⟩
    | @later t v more earlier add ih =>
      rcases ih with hwhole | ⟨j, u, secs, record, holds, hadd⟩
      · exact .inl (isWhole_of_addSeconds hwhole add)
      · -- all of the seconds lie in the calendar, so they can be added at once
        obtain ⟨hsecs, -⟩ := addSeconds_eq_ok_iff.1 hadd
        obtain ⟨hmore, -⟩ := addSeconds_eq_ok_iff.1 add
        have hfirst := u.first_le
        have hlast := v.le_last
        have hsize : UInt64.size = 18446744073709551616 := rfl
        have hall : (UInt64.ofNat (secs.toNat + more.toNat)).toNat = secs.toNat + more.toNat :=
          UInt64.toNat_ofNat_of_lt (by omega)
        exact .inr ⟨j, u, _, record, holds, addSeconds_trans hall hadd add⟩
  · rintro (hwhole | ⟨j, u, secs, record, holds, hadd⟩)
    · exact .of_isWhole hwhole
    · exact .later (.held record holds) hadd

theorem Obtained.regular (h : Obtained records t) : t.Regular := by
  rcases obtained_iff.1 h with hwhole | ⟨j, u, secs, -, holds, hadd⟩
  · have := isWhole_iff.1 hwhole
    exact .inl (by omega)
  · exact holds.regular.addSeconds hadd

theorem forall_obtained_isWhole_iff :
    (∀ t, Obtained records t → t.isWhole = true) ↔ WholeIn records := by
  constructor
  · intro h j hj t holds
    exact h t (.held hj holds)
  · intro h t hobtained
    rcases obtained_iff.1 hobtained with hwhole | ⟨j, u, secs, hj, holds, hadd⟩
    · exact hwhole
    · exact isWhole_of_addSeconds (h j hj u holds) hadd

/-- An instant with a fraction is later than its second, and no later by seconds. -/
theorem forall_obtained_order_iff :
    (∀ t u, Obtained records t → Obtained records u → (t ≤ u ↔ t.seconds ≤ u.seconds)) ↔
      WholeIn records := by
  constructor
  · intro h j hj t holds
    have hle : t ≤ t.truncate :=
      (h t t.truncate (.held hj holds) (.truncated t)).2 (Int.le_refl t.seconds)
    rw [isWhole_iff]
    rcases le_iff.1 hle with hlt | ⟨-, hnanos⟩
    · exact absurd hlt (Int.lt_irrefl t.seconds)
    · exact Nat.le_zero.1 hnanos
  · intro h t u ht hu
    have hwhole := forall_obtained_isWhole_iff.2 h
    exact le_iff_of_isWhole (hwhole t ht) (hwhole u hu)

/-! ### The text of an instant -/

/-- The instant that a text without a fraction names: a leap second is a second of its own. -/
def shown (t : Timestamp) : Timestamp where
  seconds := t.seconds
  nanos := t.nanos / 1000000000 * 1000000000
  first_le := t.first_le
  le_last := t.le_last
  nanos_lt := Nat.lt_of_le_of_lt (Nat.div_mul_le_self _ _) t.nanos_lt

theorem text_shown (t : Timestamp) : t.shown.text = t.iso := by
  have hfraction : t.shown.nanos % 1000000000 = 0 := Nat.mul_mod_left _ _
  have hleap : t.shown.nanos / 1000000000 = t.nanos / 1000000000 :=
    Nat.mul_div_cancel _ (by decide)
  have hchars : t.shown.isoChars = t.isoChars := by
    simp only [isoChars, hleap]
    rfl
  rw [text, hfraction, hchars, iso, fractionText, if_pos rfl, String.append_empty]

theorem Regular.shown (h : t.Regular) : t.shown.Regular := by
  rcases h with hfraction | hminute
  · refine .inl ?_
    show t.nanos / 1000000000 * 1000000000 < 1000000000
    omega
  · exact .inr hminute

/-- The text without a fraction names the instant itself if it has none. -/
theorem Regular.read?_iso_iff (h : t.Regular) :
    read? t.iso = some t ↔ t.nanos % 1000000000 = 0 := by
  rw [← text_shown, read?_text_iff.2 h.shown, Option.some.injEq]
  constructor
  · intro hsame
    have hnanos : t.nanos / 1000000000 * 1000000000 = t.nanos := congrArg Timestamp.nanos hsame
    omega
  · intro hwhole
    refine ext rfl ?_
    show t.nanos / 1000000000 * 1000000000 = t.nanos
    omega

end Timestamp

open Timestamp in
/-- **Fractions come from records alone.** Let any instants be had from texts, from clocks, by
number, by adding seconds and out of some records. They are the whole seconds and what lies whole
seconds after an instant in the records. So they are all whole, and in the order of their seconds,
if and only if the records hold nothing else. And the text of each names the instant itself exactly
if it has no fraction of a second. -/
theorem fractions_come_from_records (records : Json → Prop) :
    (∀ t, Obtained records t ↔
      t.isWhole = true ∨ ∃ j u secs, records j ∧ j.Holds u ∧ u.addSeconds secs = .ok t) ∧
    ((∀ t, Obtained records t → t.isWhole = true) ↔
      ∀ j, records j → ∀ t, j.Holds t → t.isWhole = true) ∧
    ((∀ t u, Obtained records t → Obtained records u → (t ≤ u ↔ t.seconds ≤ u.seconds)) ↔
      ∀ j, records j → ∀ t, j.Holds t → t.isWhole = true) ∧
    ∀ t, Obtained records t → (read? t.iso = some t ↔ t.nanos % 1000000000 = 0) :=
  ⟨fun _ => obtained_iff, forall_obtained_isWhole_iff, forall_obtained_order_iff,
    fun _ h => h.regular.read?_iso_iff⟩

namespace Sample

/-- Half a second after noon. -/
def halfPast : Timestamp := (Timestamp.ofParts? 1768478400 500000000).get (by decide)

/-- A minute after noon. -/
def minutePast : Timestamp := (Timestamp.ofEpoch? 1768478460).get (by decide)

end Sample

/-- A fraction in a record is kept, where the strict form drops it. It makes the instant later than
its second, is missing in its text, and is still there a minute later: the deadline is then ahead,
but a cooldown of a minute is over. -/
theorem half_second_is_kept :
    Timestamp.Obtained (· = .str "2026-01-15T12:00:00.5Z") Sample.halfPast ∧
    Timestamp.parse "2026-01-15T12:00:00.5Z" = .ok Sample.halfPast.truncate ∧
    Sample.halfPast.isWhole = false ∧
    Sample.halfPast.truncate < Sample.halfPast ∧
    Sample.halfPast.truncate.seconds = Sample.halfPast.seconds ∧
    Sample.halfPast.iso = "2026-01-15T12:00:00Z" ∧
    Timestamp.read? Sample.halfPast.iso = some Sample.halfPast.truncate ∧
    ∃ deadline, Sample.halfPast.addSeconds 60 = .ok deadline ∧ Sample.minutePast < deadline ∧
      Policy.inCooldown (some Sample.halfPast) Sample.minutePast 60 = false := by
  have hread : Timestamp.read? "2026-01-15T12:00:00.5Z" = some Sample.halfPast := by
    decide +kernel
  have hparse : (Timestamp.parse "2026-01-15T12:00:00.5Z").toOption =
      some Sample.halfPast.truncate := by
    decide +kernel
  refine ⟨.held rfl (.alone hread), ?_, by decide, by decide, rfl, by decide +kernel,
    by decide +kernel, ?_⟩
  · cases hstrict : Timestamp.parse "2026-01-15T12:00:00.5Z" with
    | ok t =>
      rw [hstrict] at hparse
      cases hparse
      rfl
    | error fault =>
      rw [hstrict] at hparse
      cases hparse
  · obtain ⟨deadline, hadd⟩ : ∃ deadline, Sample.halfPast.addSeconds 60 = .ok deadline :=
      Timestamp.exists_addSeconds_iff.2 (by decide)
    obtain ⟨hseconds, hnanos⟩ := Timestamp.addSeconds_eq_ok_iff.1 hadd
    refine ⟨deadline, hadd, ?_, by decide⟩
    rw [Timestamp.lt_iff, hseconds, hnanos]
    decide

end Arbitration
