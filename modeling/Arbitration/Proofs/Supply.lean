import Arbitration.Proofs.Runs

/-!
# No operation creates or destroys value

The sum of all balances never changes. Nothing is assumed here: the accounts of the protocol may
coincide with each other, with the reserve or with a party, the records may be anything, and any
part may refuse anything, **compensations included**.

The proof does not look at what an operation is for. `Transaction.Keeps` holds of a transaction if
none of its steps breaks a property of the ledger that transfers keep; it is closed under all ways
to put steps together, and taking effects back consists of transfers too.
-/

namespace Arbitration

/-- A property of ledgers that transfers keep. -/
def Ledger.Closed (P : Ledger → Prop) : Prop :=
  ∀ (l l' : Ledger) (source target : AccountId) (amount : Amount), P l →
    l.transfer source target amount = .ok l' → P l'

theorem Ledger.closed_totalSupply (supply : Nat) :
    Ledger.Closed fun l => l.totalSupply = supply := by
  intro l l' source target amount h hdone
  exact (Ledger.transferred_of_transfer hdone).supply.trans h

/-! ### Taking effects back -/

theorem Undo.apply_keeps {P : Ledger → Prop} (hP : Ledger.Closed P) {e : Engine} (h : P e.ledger)
    (u : Undo) : P (u.apply e).ledger := by
  cases u with
  | transfer source target amount =>
    show P (orElseKeep e.ledger (e.ledger.transfer target source amount))
    cases hback : e.ledger.transfer target source amount with
    | ok ledger => exact hP _ _ _ _ _ h hback
    | error err => exact h
  | freeze dispute => exact h
  | unfreeze dispute holder => exact h
  | harassment account => exact h
  | record previous => exact h

theorem Session.rollback_keeps {P : Ledger → Prop} (hP : Ledger.Closed P) {s : Session}
    (h : P s.engine.ledger) : P s.rollback.ledger :=
  List.foldlRecOn (motive := fun e => P e.ledger) s.journal Undo.apply h
    fun _ he u _ => u.apply_keeps hP he

/-! ### Steps put together -/

namespace Transaction

variable {α β : Type} {P : Ledger → Prop}

/-- Wherever the transaction ends, the ledger still has the property. -/
structure Keeps (P : Ledger → Prop) (t : Transaction α) : Prop where
  ends : ∀ s : Session, P s.engine.ledger →
    t.Ends s (fun _ s' => P s'.engine.ledger) fun _ s' => P s'.engine.ledger

theorem Keeps.bind {t : Transaction α} {f : α → Transaction β} (ht : t.Keeps P)
    (hf : ∀ a, (f a).Keeps P) : (t >>= f).Keeps P :=
  ⟨fun s hs => .bind ((ht.ends s hs).mono fun a s' hs' => (hf a).ends s' hs')⟩

theorem Keeps.map {t : Transaction α} {f : α → β} (ht : t.Keeps P) : (f <$> t).Keeps P :=
  ⟨fun s hs => .map (ht.ends s hs)⟩

theorem Keeps.ite {c : Prop} [Decidable c] {t u : Transaction α} (ht : t.Keeps P)
    (hu : u.Keeps P) : (if c then t else u).Keeps P := by
  split
  · exact ht
  · exact hu

/-- A step that is taken only under a condition, and what follows it. -/
theorem Keeps.step_if {c : Prop} [Decidable c] {t : Transaction Unit} {f : Unit → Transaction α}
    (ht : t.Keeps P) (hf : ∀ u, (f u).Keeps P) : (if c then t >>= f else f ()).Keeps P :=
  .ite (ht.bind hf) (hf ())

theorem keeps_pure (a : α) : (pure a : Transaction α).Keeps P := ⟨fun _ hs => hs⟩

theorem keeps_throw (err : DisputeError) : (throw err : Transaction α).Keeps P := ⟨fun _ hs => hs⟩

theorem keeps_ask (question : Engine → Except DisputeError α) : (ask question).Keeps P := by
  refine ⟨fun s hs => ?_⟩
  simp only [ask, Ends]
  cases question s.engine with
  | ok a => exact hs
  | error err => exact hs

theorem keeps_calculate (result : Except ArithmeticError α) : (calculate result).Keeps P :=
  keeps_ask _

theorem keeps_engine : engine.Keeps P := ⟨fun _ hs => hs⟩

theorem keeps_emit (dispute : DisputeId) (event : Event) : (emit dispute event).Keeps P :=
  ⟨fun _ hs => hs⟩

theorem keeps_move (hP : Ledger.Closed P) (source target : AccountId) (amount : Amount) :
    (move source target amount).Keeps P := by
  refine ⟨fun s hs => ?_⟩
  simp only [move, Ends]
  by_cases hz : amount.isZero = true
  · rw [if_pos hz]
    exact hs
  · rw [if_neg hz]
    cases hdone : s.engine.ledger.transfer source target amount with
    | ok ledger => exact hP _ _ _ _ _ hs hdone
    | error err => exact hs

theorem keeps_freeze (dispute : DisputeId) (holder : AccountId) :
    (freeze dispute holder).Keeps P := by
  refine ⟨fun s hs => ?_⟩
  simp only [freeze, Ends]
  cases s.engine.registry.freeze dispute holder with
  | ok registry => exact hs
  | error err => exact hs

theorem keeps_tryUnfreeze (dispute : DisputeId) (holder : AccountId) (release : Release) :
    (tryUnfreeze dispute holder release).Keeps P := by
  refine ⟨fun s hs => ?_⟩
  simp only [tryUnfreeze, Ends]
  cases s.engine.registry.unfreeze dispute release with
  | ok registry => exact hs
  | error err => exact hs

theorem keeps_applyFallback (dispute : DisputeId) (termsRef : String) :
    (applyFallback dispute termsRef).Keeps P := by
  refine ⟨fun s hs => ?_⟩
  simp only [applyFallback, Ends]
  cases s.engine.registry.applyFallback dispute termsRef with
  | ok registry => exact hs
  | error err => exact hs

theorem keeps_recordHarassment (account : AccountId) : (recordHarassment account).Keeps P := by
  refine ⟨fun s hs => ?_⟩
  simp only [recordHarassment, Ends]
  cases s.engine.treasury.recordHarassment account with
  | ok treasury => exact hs
  | error err => exact hs

theorem keeps_write (w : StoreWrite) : (write w).Keeps P := by
  refine ⟨fun s hs => ?_⟩
  simp only [write, Ends]
  cases s.engine.store.write w with
  | ok store => exact hs
  | error err => exact hs

theorem keeps_replace (previous next : Dispute) : (replace previous next).Keeps P := by
  refine ⟨fun s hs => ?_⟩
  have hwrite := (keeps_write { record := next }).ends s hs
  simp only [replace, Ends] at hwrite ⊢
  cases hdone : write { record := next } s with
  | ok a s' => simpa only [hdone] using hwrite
  | error err s' => simpa only [hdone] using hwrite

/-! ### The operations -/

theorem keeps_reserveIncentive (hP : Ledger.Closed P) (stake : Amount) :
    (reserveIncentive stake).Keeps P := by
  refine keeps_engine.bind fun e => ?_
  split
  · exact keeps_engine.bind fun e => (keeps_calculate _).bind fun owed =>
      (keeps_move hP ..).bind fun _ => keeps_pure _
  · exact keeps_pure _

theorem keeps_initiate (hP : Ledger.Closed P) (caller : AccountId) (r : InitiateRequest) :
    (initiate caller r).Keeps P := by
  unfold initiate
  refine keeps_engine.bind fun e => (keeps_ask _).bind fun esc => (keeps_move hP ..).bind fun _ =>
    (keeps_reserveIncentive hP _).bind fun earmarked => ?_
  refine .step_if (keeps_recordHarassment caller) fun _ => (keeps_freeze ..).bind fun _ => ?_
  exact (keeps_calculate _).bind fun deadline => (keeps_write _).bind fun _ =>
    (keeps_emit ..).bind fun _ => (keeps_emit ..).bind fun _ => keeps_pure _

theorem keeps_deposit (hP : Ledger.Closed P) (caller : AccountId) (id : DisputeId) :
    (deposit caller id).Keeps P := by
  unfold deposit
  refine keeps_engine.bind fun e => (keeps_ask _).bind fun dep => ?_
  exact (keeps_move hP ..).bind fun _ => (keeps_move hP ..).bind fun _ =>
    (keeps_calculate _).bind fun total => (keeps_write _).bind fun _ =>
      (keeps_emit ..).bind fun _ => keeps_emit ..

theorem keeps_grantSubsidy (hP : Ledger.Closed P) (caller : AccountId) (id : DisputeId) :
    (grantSubsidy caller id).Keeps P := by
  unfold grantSubsidy
  refine keeps_engine.bind fun e => (keeps_ask _).bind fun granted => ?_
  exact (keeps_move hP ..).bind fun _ => (keeps_write _).bind fun _ =>
    (keeps_emit ..).bind fun _ => keeps_pure _

theorem keeps_submit (caller : AccountId) (id : DisputeId) (p : SignedProposal) :
    (submit caller id p).Keeps P :=
  keeps_engine.bind fun _ => (keeps_ask _).bind fun _ => (keeps_write _).bind fun _ =>
    keeps_emit ..

theorem keeps_release (d : Dispute) (r : Release) : (release d r).Keeps P := by
  unfold release
  refine (keeps_tryUnfreeze ..).bind fun refusal => ?_
  cases refusal with
  | none => exact keeps_pure _
  | some err =>
    refine keeps_engine.bind fun e => ?_
    split
    · exact keeps_throw _
    · exact (keeps_emit ..).bind fun _ => keeps_pure _

theorem keeps_resolve (hP : Ledger.Closed P) (d : Dispute) (r : Resolution) :
    (resolve d r).Keeps P := by
  unfold resolve payOut returnEarmark
  refine (keeps_ask _).bind fun burned => ?_
  -- the four moves
  refine (keeps_engine.bind fun e => (keeps_move hP ..).bind fun _ =>
    (keeps_move hP ..).bind fun _ => keeps_move hP ..).bind fun _ => ?_
  refine (keeps_engine.bind fun e => .ite (keeps_move hP ..) (keeps_pure _)).bind fun _ => ?_
  -- from here on the ledger is not called
  refine (keeps_release ..).bind fun released => keeps_engine.bind fun e =>
    (keeps_ask _).bind fun previous => (keeps_replace ..).bind fun _ => ?_
  refine .step_if (keeps_emit ..) fun _ => .step_if (keeps_emit ..) fun _ => ?_
  refine .ite ?_ (keeps_emit ..)
  exact (keeps_applyFallback ..).bind fun _ => (keeps_emit ..).bind fun _ => keeps_emit ..

theorem keeps_accept (hP : Ledger.Closed P) (caller : AccountId) (id : DisputeId) :
    (accept caller id).Keeps P := by
  unfold accept
  refine (keeps_ask _).bind fun a => (keeps_emit ..).bind fun _ => ?_
  exact .ite (keeps_resolve hP ..) (keeps_write _)

theorem keeps_routeExcess (hP : Ledger.Closed P) (caller : AccountId) (offered fee : Amount) :
    (routeExcess caller offered fee).Keeps P := by
  unfold routeExcess
  refine keeps_engine.bind fun e => .ite ?_ (keeps_pure _)
  exact (keeps_calculate _).bind fun excess => (keeps_move hP ..).bind fun _ => keeps_pure _

theorem keeps_counter (hP : Ledger.Closed P) (caller : AccountId) (id : DisputeId)
    (r : CounterRequest) : (counter caller id r).Keeps P := by
  unfold counter
  refine keeps_engine.bind fun e => (keeps_ask _).bind fun c => (keeps_move hP ..).bind fun _ =>
    (keeps_routeExcess hP ..).bind fun routed => ?_
  exact (keeps_calculate _).bind fun d => (keeps_calculate _).bind fun deadline =>
    (keeps_write _).bind fun _ => (keeps_emit ..).bind fun _ => keeps_emit ..

theorem keeps_payIncentive (hP : Ledger.Closed P) (d : Dispute) : (payIncentive d).Keeps P := by
  unfold payIncentive
  refine keeps_engine.bind fun e => (keeps_calculate _).bind fun owed => .ite ?_ ?_
  · exact .step_if (keeps_emit ..) fun _ => keeps_pure _
  · exact (keeps_move hP ..).bind fun _ => keeps_pure _

theorem keeps_enforce (hP : Ledger.Closed P) (id : DisputeId) : (enforce id).Keeps P := by
  unfold enforce returnSubsidy
  refine (keeps_ask _).bind fun overdue => ?_
  cases overdue with
  | silent d =>
    refine (keeps_engine.bind fun e => .ite ((keeps_move hP ..).bind fun _ => keeps_emit ..)
      (keeps_pure _)).bind fun _ => ?_
    exact (keeps_payIncentive hP d).bind fun incentive => (keeps_resolve hP ..).bind fun _ =>
      keeps_pure _
  | deadlocked d settlement => exact (keeps_resolve hP ..).bind fun _ => keeps_pure _

theorem keeps_retryRelease (id : DisputeId) : (retryRelease id).Keeps P := by
  unfold retryRelease
  refine (keeps_ask _).bind fun waiting => (keeps_tryUnfreeze ..).bind fun refusal => ?_
  cases refusal with
  | some err => exact keeps_throw _
  | none => exact (keeps_write _).bind fun _ => keeps_emit ..

end Transaction

theorem Operation.transaction_keeps {P : Ledger → Prop} (hP : Ledger.Closed P) (op : Operation) :
    op.transaction.Keeps P := by
  cases op with
  | initiate caller r => exact (Transaction.keeps_initiate hP caller r).map
  | deposit caller id => exact (Transaction.keeps_deposit hP caller id).map
  | grantSubsidy caller id => exact (Transaction.keeps_grantSubsidy hP caller id).map
  | submit caller id p => exact (Transaction.keeps_submit caller id p).map
  | accept caller id => exact (Transaction.keeps_accept hP caller id).map
  | counter caller id r => exact (Transaction.keeps_counter hP caller id r).map
  | enforce caller id => exact (Transaction.keeps_enforce hP id).map
  | retryRelease caller id => exact (Transaction.keeps_retryRelease id).map

/-- Any property of the ledger that transfers keep is kept by every operation, successful or not. -/
theorem Engine.perform_keeps {P : Ledger → Prop} (hP : Ledger.Closed P) {e : Engine}
    (h : P e.ledger) (op : Operation) : P (e.perform op).2.ledger := by
  have hends := (op.transaction_keeps hP).ends { engine := e } h
  unfold Transaction.Ends at hends
  unfold perform Transaction.run
  cases hrun : op.transaction { engine := e } with
  | ok a s =>
    rw [hrun] at hends
    exact hends
  | error err s =>
    rw [hrun] at hends
    exact s.rollback_keeps hP hends

/-- **Conservation of the supply.** Whatever the state of the engine, no operation changes the sum
of all balances: not if it succeeds, not if it fails and is taken back, and not if some of its
compensations are refused. So no run of any length changes it. -/
theorem totalSupply_conserved (e : Engine) :
    (∀ op : Operation, (e.perform op).2.ledger.totalSupply = e.ledger.totalSupply) ∧
      ∀ turns : List Turn, (e.run turns).ledger.totalSupply = e.ledger.totalSupply := by
  have hcall : ∀ (e : Engine) (op : Operation),
      (e.perform op).2.ledger.totalSupply = e.ledger.totalSupply := fun e op =>
    Engine.perform_keeps (Ledger.closed_totalSupply e.ledger.totalSupply) rfl op
  refine ⟨hcall e, fun turns => ?_⟩
  induction turns generalizing e with
  | nil => rfl
  | cons s rest ih =>
    refine (ih (e.step s)).trans ?_
    cases s with
    | call op => exact hcall e op
    | clock now => rfl
    | switch switches => rfl

end Arbitration
