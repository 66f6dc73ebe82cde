import IndiaSwing.PaperPilotNotification

namespace IndiaSwing

open ActionRuns ExceptGuards Interleaving ObjectStore

variable {requests : ℕ → NotificationRequest} {call : ℕ} {input : NotificationInput}
variable {state : NotificationState} {phase : NotificationPhase} {bucket : String} {fails : Bool}
variable {claim : PromotedPaperPilotNotificationClaim} {receipt : PromotedPaperPilotNotificationReceipt}
variable {objects : Objects NotificationObjectName NotificationObject}

theorem claimFor_ok {request : NotificationRequest} (h : claimFor request = .ok claim) :
    claim.targetSession = request.terminal.targetSession ∧
      claim.terminalId = request.terminal.terminalId ∧
      claim.chatBindingId = chatBindingId request.chatId := by
  unfold claimFor at h
  obtain ⟨-, h⟩ := raiseIf_bind_eq_ok.mp h
  obtain ⟨message, -, h⟩ := bind_eq_ok.mp h
  obtain ⟨-, h⟩ := raiseIf_bind_eq_ok.mp h
  obtain ⟨-, h⟩ := raiseIf_bind_eq_ok.mp h
  split at h
  next => cases h
  next =>
    obtain ⟨-, h⟩ := raiseIf_bind_eq_ok.mp h
    cases Except.ok.inj h
    exact ⟨rfl, rfl, rfl⟩

theorem readOptional_ok {name : NotificationObjectName} {observed : Option NotificationObject}
    (h : readOptional fails name objects = .ok observed) : objects name = observed := by
  unfold readOptional at h
  obtain ⟨-, h⟩ := raiseIf_bind_eq_ok.mp h
  exact Except.ok.inj h

/-- A receipt that is read is the claim's own. -/
theorem getReceiptOptional_some (h : getReceiptOptional fails bucket claim objects = .ok (some receipt)) :
    BoundTo receipt claim ∧
      ∃ generation, objects (receiptObjectName bucket claim) = some ⟨.receipt receipt, generation⟩ := by
  unfold getReceiptOptional at h
  obtain ⟨observed, hobserved, h⟩ := bind_eq_ok.mp h
  have hread := readOptional_ok hobserved
  split at h
  next => cases h
  next => cases h
  next stored generation =>
    obtain ⟨hbound, h⟩ := raiseIf_bind_eq_ok.mp h
    cases Option.some.inj (Except.ok.inj h)
    exact ⟨not_not.mp hbound, generation, hread⟩

/-- A stored receipt of the claim is what a read finds, unless it fails. -/
theorem getReceiptOptional_stored {generation : ℕ}
    (h : objects (receiptObjectName bucket claim) = some ⟨.receipt receipt, generation⟩)
    (hbound : BoundTo receipt claim) :
    getReceiptOptional false bucket claim objects = .ok (some receipt) ∧
      getReceiptOptional true bucket claim objects = .error .invalid := by
  have hread : readOptional false (receiptObjectName bucket claim) objects =
      .ok (some ⟨.receipt receipt, generation⟩) := by
    unfold readOptional
    rw [raiseIf_neg Bool.false_ne_true, ok_bind, h]
    rfl
  refine ⟨?_, rfl⟩
  unfold getReceiptOptional
  rw [hread, ok_bind]
  show (raiseIf (¬BoundTo receipt claim) NotificationError.invalid >>= fun _ => pure (some receipt)) = _
  rw [raiseIf_neg (not_not.mpr hbound)]
  rfl

section Step

/-- What a step of a call can do. -/
inductive DeliverMove (request : NotificationRequest) (call : ℕ) (state : NotificationState) :
    NotificationPhase → NotificationPhase → NotificationState → Prop
  | rests {phase : NotificationPhase} : DeliverMove request call state phase phase state
  | raises {phase : NotificationPhase} (e : NotificationError) :
      DeliverMove request call state phase (.raised e) state
  | begins {claim : PromotedPaperPilotNotificationClaim} : claimFor request = .ok claim →
      DeliverMove request call state .start (.createClaim claim) state
  | replays {phase : NotificationPhase} {claim : PromotedPaperPilotNotificationClaim}
      {receipt : PromotedPaperPilotNotificationReceipt} {fails : Bool} :
      (phase = .start ∧ claimFor request = .ok claim ∨ phase = .claimExists claim) →
      getReceiptOptional fails request.bucket claim state.objects = .ok (some receipt) →
      DeliverMove request call state phase (.returned ⟨claim, receipt, true⟩) state
  | creates {claim : PromotedPaperPilotNotificationClaim} {fate : Fate} {generation : ℕ}
      {next : NotificationPhase} :
      (next = .readBackClaim claim generation ∧ (upload fate (claimObjectName request.bucket claim)
        ⟨.claim claim, generation⟩ state.objects).1 = .created ∨ next = .claimExists claim ∨
          next = .raised .invalid) →
      DeliverMove request call state (.createClaim claim) next
        { state with objects := (upload fate (claimObjectName request.bucket claim)
          ⟨.claim claim, generation⟩ state.objects).2 }
  | readsBack {claim : PromotedPaperPilotNotificationClaim} {generation : ℕ} :
      DeliverMove request call state (.readBackClaim claim generation) (.getLocalReceipt claim) state
  | unsent {claim : PromotedPaperPilotNotificationClaim} :
      DeliverMove request call state (.getLocalReceipt claim) (.postJson claim) state
  | sentBefore {claim : PromotedPaperPilotNotificationClaim} {stored : TelegramDeliveryReceipt} : Answers stored claim →
      DeliverMove request call state (.getLocalReceipt claim)
        (.putReceipt claim (notificationReceipt claim stored)) state
  | sends {claim : PromotedPaperPilotNotificationClaim} {next : NotificationPhase} :
      (next = .raised .uncertain ∨ ∃ messageId deliveredAt,
        next = .putLocalReceipt claim (telegramReceipt claim messageId deliveredAt)) →
      DeliverMove request call state (.postJson claim) next
        { state with sends := state.sends ++ [(call, claimObjectName request.bucket claim)] }
  | keeps {claim : PromotedPaperPilotNotificationClaim} {receipt : TelegramDeliveryReceipt}
      {next : NotificationPhase} (localReceipts : Objects (String × ContentId) TelegramDeliveryReceipt) :
      (next = .raised .uncertain ∨ next = .putReceipt claim (notificationReceipt claim receipt)) →
      DeliverMove request call state (.putLocalReceipt claim receipt) next
        { state with localReceipts }
  | publishes {claim : PromotedPaperPilotNotificationClaim}
      {receipt : PromotedPaperPilotNotificationReceipt} {fate : Fate} {generation : ℕ}
      {next : NotificationPhase} :
      (next = .readBackReceipt claim receipt generation ∨ next = .receiptExists claim receipt ∨
        next = .raised .invalid) →
      DeliverMove request call state (.putReceipt claim receipt) next
        { state with objects := (upload fate (receiptObjectName request.bucket claim)
          ⟨.receipt receipt, generation⟩ state.objects).2 }
  | verifies {phase next : NotificationPhase} {claim : PromotedPaperPilotNotificationClaim}
      {receipt : PromotedPaperPilotNotificationReceipt} :
      ((∃ generation, phase = .readBackReceipt claim receipt generation) ∨
        phase = .receiptExists claim receipt ∨ phase = .compareReceipt claim receipt) →
      (next = .compareReceipt claim receipt ∨ next = .confirm claim receipt) →
      DeliverMove request call state phase next state
  | completes {claim : PromotedPaperPilotNotificationClaim}
      {receipt : PromotedPaperPilotNotificationReceipt} {fails : Bool} :
      getReceiptOptional fails request.bucket claim state.objects = .ok (some receipt) →
      DeliverMove request call state (.confirm claim receipt) (.returned ⟨claim, receipt, false⟩) state

theorem deliverStep_createClaim {claim : PromotedPaperPilotNotificationClaim} :
    (deliverStep requests call input state (.createClaim claim)).1 =
      match (upload input.fate (claimObjectName (requests call).bucket claim)
        ⟨.claim claim, input.generation + 1⟩ state.objects).1 with
      | .created => .readBackClaim claim (input.generation + 1)
      | .conflict => .claimExists claim
      | .failed => .raised .invalid := rfl

theorem deliverStep_move : DeliverMove (requests call) call state phase
    (deliverStep requests call input state phase).1
    (deliverStep requests call input state phase).2 := by
  cases phase with
  | start =>
    unfold deliverStep
    dsimp only
    split
    next => exact .raises _
    next claim hclaim =>
      split
      next => exact .raises _
      next => exact .begins hclaim
      next existing hread => exact .replays (.inl ⟨rfl, hclaim⟩) hread
  | createClaim claim =>
    refine .creates ?_
    have hnext := @deliverStep_createClaim requests call input state claim
    cases hanswer : (upload input.fate (claimObjectName (requests call).bucket claim)
      ⟨.claim claim, input.generation + 1⟩ state.objects).1 with
    | created => exact .inl ⟨by rw [hnext, hanswer], rfl⟩
    | conflict => exact .inr (.inl (by rw [hnext, hanswer]))
    | failed => exact .inr (.inr (by rw [hnext, hanswer]))
  | readBackClaim claim generation =>
    unfold deliverStep
    dsimp only
    split
    next => exact .raises _
    next =>
      split
      next => exact .readsBack
      next => exact .raises _
  | claimExists claim =>
    unfold deliverStep
    dsimp only
    split
    next => exact .raises _
    next => exact .raises _
    next existing hread => exact .replays (.inr rfl) hread
  | getLocalReceipt claim =>
    unfold deliverStep
    dsimp only
    split
    next => exact .raises _
    next =>
      split
      next => exact .unsent
      next stored _ =>
        split
        next hanswers => exact .sentBefore hanswers
        next => exact .raises _
  | postJson claim =>
    unfold deliverStep
    dsimp only
    split
    next => exact .raises _
    next deliveredAt _ =>
      refine .sends ?_
      split
      next => exact .inl rfl
      next messageId _ =>
        split
        next => exact .inl rfl
        next => exact .inr ⟨messageId, deliveredAt, rfl⟩
  | putLocalReceipt claim receipt =>
    refine .keeps _ ?_
    unfold deliverStep
    dsimp only
    split
    next => exact .inr rfl
    next =>
      split
      next => exact .inr rfl
      next => exact .inl rfl
    next => exact .inl rfl
  | putReceipt claim receipt =>
    refine .publishes ?_
    have hnext : (deliverStep requests call input state (.putReceipt claim receipt)).1 =
        match (upload input.fate (receiptObjectName (requests call).bucket claim)
          ⟨.receipt receipt, input.generation + 1⟩ state.objects).1 with
        | .created => .readBackReceipt claim receipt (input.generation + 1)
        | .conflict => .receiptExists claim receipt
        | .failed => .raised .invalid := rfl
    cases hanswer : (upload input.fate (receiptObjectName (requests call).bucket claim)
      ⟨.receipt receipt, input.generation + 1⟩ state.objects).1 with
    | created => exact .inl (by rw [hnext, hanswer])
    | conflict => exact .inr (.inl (by rw [hnext, hanswer]))
    | failed => exact .inr (.inr (by rw [hnext, hanswer]))
  | readBackReceipt claim receipt generation =>
    unfold deliverStep
    dsimp only
    split
    next => exact .raises _
    next =>
      split
      next => exact .verifies (.inl ⟨generation, rfl⟩) (.inr rfl)
      next => exact .raises _
  | receiptExists claim receipt =>
    unfold deliverStep
    dsimp only
    split
    next => exact .raises _
    next =>
      split
      next => exact .verifies (.inr (.inl rfl)) (.inl rfl)
      next => exact .raises _
  | compareReceipt claim receipt =>
    unfold deliverStep
    dsimp only
    split
    next => exact .raises _
    next =>
      split
      next => exact .verifies (.inr (.inr rfl)) (.inr rfl)
      next => exact .raises _
  | confirm claim receipt =>
    unfold deliverStep
    dsimp only
    split
    next => exact .raises _
    next confirmed hread =>
      split
      next heq => exact .completes (heq ▸ hread)
      next => exact .raises _
  | returned completed => exact .rests
  | raised e => exact .rests

variable {request : NotificationRequest} {next : NotificationPhase} {after : NotificationState}

theorem DeliverMove.extends_objects (h : DeliverMove request call state phase next after) :
    Extends after.objects state.objects := by
  cases h with
  | creates _ => exact upload_extends _ _ _ _
  | publishes _ => exact upload_extends _ _ _ _
  | rests => exact Extends.refl _
  | raises e => exact Extends.refl _
  | begins _ => exact Extends.refl _
  | replays _ _ => exact Extends.refl _
  | readsBack => exact Extends.refl _
  | unsent => exact Extends.refl _
  | sentBefore _ => exact Extends.refl _
  | sends _ => exact Extends.refl _
  | keeps _ _ => exact Extends.refl _
  | verifies _ _ => exact Extends.refl _
  | completes _ => exact Extends.refl _

/-- The claim that a call has made and not used yet. -/
def NotificationPhase.unsentClaim : NotificationPhase → Option PromotedPaperPilotNotificationClaim
  | .readBackClaim claim _ => some claim
  | .getLocalReceipt claim => some claim
  | .postJson claim => some claim
  | _ => none

/-- A call may still send under a name. -/
def MaySend (requests : ℕ → NotificationRequest) (call : ℕ) (phase : NotificationPhase)
    (name : NotificationObjectName) : Prop :=
  ∃ claim, phase.unsentClaim = some claim ∧ name = claimObjectName (requests call).bucket claim

/-- A step takes the right to send with the creation of the claim, keeps it, or gives it up. -/
theorem DeliverMove.unsentClaim (h : DeliverMove request call state phase next after)
    (hnext : next.unsentClaim = some claim) : phase.unsentClaim = some claim ∨
      (state.objects (claimObjectName request.bucket claim) = none ∧
        (after.objects (claimObjectName request.bucket claim)).isSome) := by
  cases h with
  | creates hanswer =>
    rcases hanswer with ⟨rfl, hcreated⟩ | rfl | rfl
    · cases Option.some.inj hnext
      obtain ⟨hfree, hcreated⟩ := upload_created hcreated
      exact .inr ⟨hfree, Option.isSome_iff_exists.mpr ⟨_, hcreated⟩⟩
    · cases hnext
    · cases hnext
  | publishes hanswer => rcases hanswer with rfl | rfl | rfl <;> cases hnext
  | rests => exact .inl hnext
  | raises e => cases hnext
  | begins _ => cases hnext
  | replays _ _ => cases hnext
  | readsBack => exact .inl hnext
  | unsent => exact .inl hnext
  | sentBefore _ => cases hnext
  | sends hanswer => rcases hanswer with rfl | ⟨messageId, deliveredAt, rfl⟩ <;> cases hnext
  | keeps _ hanswer => rcases hanswer with rfl | rfl <;> cases hnext
  | verifies _ hanswer => rcases hanswer with rfl | rfl <;> cases hnext
  | completes _ => cases hnext

/-- A step sends nothing, or it is the one that may send and uses that up. -/
theorem DeliverMove.sends_eq (h : DeliverMove request call state phase next after) :
    after.sends = state.sends ∨ ∃ claim, phase = .postJson claim ∧ next.unsentClaim = none ∧
      after.sends = state.sends ++ [(call, claimObjectName request.bucket claim)] := by
  cases h with
  | @sends claim _ hanswer =>
    refine .inr ⟨claim, rfl, ?_, rfl⟩
    rcases hanswer with rfl | ⟨messageId, deliveredAt, rfl⟩ <;> rfl
  | creates _ => exact .inl rfl
  | publishes _ => exact .inl rfl
  | rests => exact .inl rfl
  | raises e => exact .inl rfl
  | begins _ => exact .inl rfl
  | replays _ _ => exact .inl rfl
  | readsBack => exact .inl rfl
  | unsent => exact .inl rfl
  | sentBefore _ => exact .inl rfl
  | keeps _ _ => exact .inl rfl
  | verifies _ _ => exact .inl rfl
  | completes _ => exact .inl rfl

theorem deliverStep_claimed (requests : ℕ → NotificationRequest) :
    Claimed (deliverStep requests) (MaySend requests) (fun state name => (state.objects name).isSome)
      (fun state => state.sends.map (·.2)) where
  kept i input state phase name h := deliverStep_move.extends_objects.isSome h
  acquired i input state phase name h := by
    obtain ⟨claim, hclaim, rfl⟩ := h
    rcases deliverStep_move.unsentClaim hclaim with hown | ⟨hfree, hcreated⟩
    · exact .inl ⟨claim, hown, rfl⟩
    · refine .inr ⟨?_, hcreated⟩
      rw [hfree]
      exact Bool.false_ne_true
  spent i input state phase := by
    have hmove := @deliverStep_move requests i input state phase
    rcases hmove.sends_eq with hsame | ⟨claim, rfl, hnone, hsends⟩
    · exact .inl (by rw [hsame])
    · refine .inr ⟨claimObjectName (requests i).bucket claim, ⟨claim, rfl, rfl⟩, ?_, ?_⟩
      · rintro ⟨other, hother, -⟩
        rw [hnone] at hother
        cases hother
      · rw [hsends, List.map_append, List.map_singleton]

end Step

section Provenance

/-- What a call in a phase has established about its claim and its receipt. -/
def Established (requests : ℕ → NotificationRequest) (call : ℕ) (state : NotificationState) :
    NotificationPhase → Prop
  | .start => True
  | .createClaim claim => claimFor (requests call) = .ok claim
  | .readBackClaim claim _ => claimFor (requests call) = .ok claim
  | .claimExists claim => claimFor (requests call) = .ok claim
  | .getLocalReceipt claim => claimFor (requests call) = .ok claim
  | .postJson claim => claimFor (requests call) = .ok claim
  | .putLocalReceipt claim receipt => claimFor (requests call) = .ok claim ∧ Answers receipt claim
  | .putReceipt claim receipt => claimFor (requests call) = .ok claim ∧ BoundTo receipt claim
  | .readBackReceipt claim receipt _ => claimFor (requests call) = .ok claim ∧ BoundTo receipt claim
  | .receiptExists claim receipt => claimFor (requests call) = .ok claim ∧ BoundTo receipt claim
  | .compareReceipt claim receipt => claimFor (requests call) = .ok claim ∧ BoundTo receipt claim
  | .confirm claim receipt => claimFor (requests call) = .ok claim ∧ BoundTo receipt claim
  | .returned completed => claimFor (requests call) = .ok completed.claim ∧
      BoundTo completed.receipt completed.claim ∧ ∃ generation,
        state.objects (receiptObjectName (requests call).bucket completed.claim) =
          some ⟨.receipt completed.receipt, generation⟩
  | .raised _ => True

/-- Every stored receipt is some call's own, and every send was made under its call's claim. -/
structure Attributed (requests : ℕ → NotificationRequest) (state : NotificationState) : Prop where
  receipts : ∀ name receipt generation, state.objects name = some ⟨.receipt receipt, generation⟩ →
    ∃ author claim, claimFor (requests author) = .ok claim ∧
      name = receiptObjectName (requests author).bucket claim ∧ BoundTo receipt claim
  sends : ∀ send ∈ state.sends, ∃ claim, claimFor (requests send.1) = .ok claim ∧
    send.2 = claimObjectName (requests send.1).bucket claim

theorem boundTo_notificationReceipt {stored : TelegramDeliveryReceipt} (h : Answers stored claim) :
    BoundTo (notificationReceipt claim stored) claim := ⟨rfl, rfl, rfl, h⟩

theorem Established.mono {later : NotificationState} (hlater : Extends later.objects state.objects)
    (h : Established requests call state phase) : Established requests call later phase := by
  cases phase with
  | returned completed =>
    obtain ⟨hclaim, hbound, generation, hstored⟩ := h
    exact ⟨hclaim, hbound, generation, hlater _ _ hstored⟩
  | start => exact h
  | createClaim _ => exact h
  | readBackClaim _ _ => exact h
  | claimExists _ => exact h
  | getLocalReceipt _ => exact h
  | postJson _ => exact h
  | putLocalReceipt _ _ => exact h
  | putReceipt _ _ => exact h
  | readBackReceipt _ _ _ => exact h
  | receiptExists _ _ => exact h
  | compareReceipt _ _ => exact h
  | confirm _ _ => exact h
  | raised _ => exact h

theorem DeliverMove.established {next : NotificationPhase} {after : NotificationState}
    (hmove : DeliverMove (requests call) call state phase next after)
    (h : Established requests call state phase) : Established requests call after next := by
  cases hmove with
  | rests => exact h
  | raises e => trivial
  | begins hclaim => exact hclaim
  | replays hphase hread =>
    obtain ⟨hbound, hstored⟩ := getReceiptOptional_some hread
    rcases hphase with ⟨-, hclaim⟩ | rfl
    · exact ⟨hclaim, hbound, hstored⟩
    · exact ⟨h, hbound, hstored⟩
  | creates hanswer =>
    rcases hanswer with ⟨rfl, -⟩ | rfl | rfl
    · exact h
    · exact h
    · trivial
  | readsBack => exact h
  | unsent => exact h
  | sentBefore hanswers => exact ⟨h, boundTo_notificationReceipt hanswers⟩
  | sends hanswer =>
    rcases hanswer with rfl | ⟨messageId, deliveredAt, rfl⟩
    · trivial
    · exact ⟨h, rfl, rfl, rfl⟩
  | keeps _ hanswer =>
    rcases hanswer with rfl | rfl
    · trivial
    · exact ⟨h.1, boundTo_notificationReceipt h.2⟩
  | publishes hanswer =>
    rcases hanswer with rfl | rfl | rfl
    · exact h
    · exact h
    · trivial
  | verifies hphase hanswer =>
    rcases hphase with ⟨generation, rfl⟩ | rfl | rfl <;> rcases hanswer with rfl | rfl <;> exact h
  | completes hread =>
    obtain ⟨hbound, hstored⟩ := getReceiptOptional_some hread
    exact ⟨h.1, hbound, hstored⟩

theorem DeliverMove.attributed {next : NotificationPhase} {after : NotificationState}
    (hmove : DeliverMove (requests call) call state phase next after)
    (h : Established requests call state phase) (hstate : Attributed requests state) :
    Attributed requests after := by
  cases hmove with
  | @creates claim fate generation _ _ =>
    refine ⟨fun name receipt found hfound => ?_, hstate.sends⟩
    rcases upload_eq_some hfound with hold | ⟨-, -, hclaim⟩
    · exact hstate.receipts name receipt found hold
    · cases hclaim
  | @publishes claim receipt fate generation _ _ =>
    refine ⟨fun name found number hfound => ?_, hstate.sends⟩
    rcases upload_eq_some hfound with hold | ⟨rfl, -, hnew⟩
    · exact hstate.receipts name found number hold
    · cases hnew
      exact ⟨call, claim, h.1, rfl, h.2⟩
  | @sends claim _ _ =>
    refine ⟨hstate.receipts, fun send hsend => ?_⟩
    rcases List.mem_append.mp hsend with hold | hnew
    · exact hstate.sends send hold
    · cases List.mem_singleton.mp hnew
      exact ⟨claim, h, rfl⟩
  | keeps _ _ => exact ⟨hstate.receipts, hstate.sends⟩
  | rests => exact hstate
  | raises e => exact hstate
  | begins _ => exact hstate
  | replays _ _ => exact hstate
  | readsBack => exact hstate
  | unsent => exact hstate
  | sentBefore _ => exact hstate
  | verifies _ _ => exact hstate
  | completes _ => exact hstate

theorem deliverStep_stable (requests : ℕ → NotificationRequest) :
    Stable (deliverStep requests) (Attributed requests) (Established requests) where
  shared i input state phase hstate h := deliverStep_move.attributed h hstate
  own i input state phase hstate h := deliverStep_move.established h
  others i j input state phase other _ hstate h hother :=
    hother.mono deliverStep_move.extends_objects

end Provenance

section Runs

/-- The calls, none of which has begun, and an empty bucket. -/
def idleCalls : System NotificationState NotificationPhase := ⟨.empty, fun _ => .start⟩

/-- The calls after some turns. -/
def deliverCalls (requests : ℕ → NotificationRequest) (turns : List (Turn NotificationInput)) :
    System NotificationState NotificationPhase := runTurns (deliverStep requests) idleCalls turns

theorem deliverCalls_holds (requests : ℕ → NotificationRequest) (turns : List (Turn NotificationInput)) :
    Holds (Attributed requests) (Established requests) (deliverCalls requests turns) := by
  have hstart : Holds (Attributed requests) (Established requests) idleCalls := by
    refine ⟨⟨?_, ?_⟩, fun _ => trivial⟩
    · intro name receipt generation h
      cases h
    · intro send h
      cases h
  exact (deliverStep_stable requests).run hstart turns

theorem deliverCalls_exclusive (requests : ℕ → NotificationRequest)
    (turns : List (Turn NotificationInput)) :
    Exclusive (MaySend requests) (fun state name => (state.objects name).isSome)
      (fun state => state.sends.map (·.2)) (deliverCalls requests turns) := by
  have hstart : Exclusive (MaySend requests) (fun state name => (state.objects name).isSome)
      (fun state => state.sends.map (·.2)) idleCalls := by
    refine ⟨?_, ?_, ?_, List.nodup_nil⟩
    · rintro i name ⟨claim, hclaim, -⟩
      cases hclaim
    · rintro i j name ⟨claim, hclaim, -⟩
      cases hclaim
    · intro name h
      cases h
  exact (deliverStep_claimed requests).run hstart turns

/-- The call is one for a terminal and a chat, on a bucket. -/
def NotificationRequest.IsFor (request : NotificationRequest) (bucket : String)
    (terminalId chat : ContentId) : Prop :=
  request.bucket = bucket ∧ request.terminal.terminalId = terminalId ∧
    chatBindingId request.chatId = chat

instance (request : NotificationRequest) (bucket : String) (terminalId chat : ContentId) :
    Decidable (request.IsFor bucket terminalId chat) := inferInstanceAs (Decidable (_ ∧ _))

/-- Calls for one terminal and chat claim one object. -/
theorem claimObjectName_eq {request other : NotificationRequest} {terminalId chat : ContentId}
    {claim claim' : PromotedPaperPilotNotificationClaim} (h : request.IsFor bucket terminalId chat)
    (h' : other.IsFor bucket terminalId chat) (hclaim : claimFor request = .ok claim)
    (hclaim' : claimFor other = .ok claim') :
    claimObjectName request.bucket claim = claimObjectName other.bucket claim' := by
  obtain ⟨hbucket, hterminal, hchat⟩ := h
  obtain ⟨hbucket', hterminal', hchat'⟩ := h'
  obtain ⟨hsession, hid, hbinding⟩ := claimFor_ok hclaim
  obtain ⟨hsession', hid', hbinding'⟩ := claimFor_ok hclaim'
  have hsame := targetSession_of_terminalId (hterminal.trans hterminal'.symm)
  unfold claimObjectName
  rw [hbucket, hbucket', hsession, hsession', hsame, hid, hid', hterminal, hterminal', hbinding,
    hbinding', hchat, hchat']

theorem length_le_one_of_nodup_map {α β : Type*} {f : α → β} {values : List α} {b : β}
    (h : (values.map f).Nodup) (hsame : ∀ a ∈ values, f a = b) : values.length ≤ 1 := by
  have hreplicate : values.map f = List.replicate values.length b := by
    refine List.eq_replicate_iff.mpr ⟨List.length_map f, ?_⟩
    intro c hc
    obtain ⟨a, ha, rfl⟩ := List.mem_map.mp hc
    exact hsame a ha
  rw [hreplicate] at h
  exact List.nodup_replicate.mp h

/-- A call that has not begun when its receipt is stored replays it. -/
def Replaying (claim : PromotedPaperPilotNotificationClaim)
    (receipt : PromotedPaperPilotNotificationReceipt) (phase : NotificationPhase) : Prop :=
  phase = .start ∨ phase = .returned ⟨claim, receipt, true⟩ ∨ ∃ e, phase = .raised e

theorem deliverStep_replaying {generation : ℕ} (hclaim : claimFor (requests call) = .ok claim)
    (hstored : state.objects (receiptObjectName (requests call).bucket claim) =
      some ⟨.receipt receipt, generation⟩) (hbound : BoundTo receipt claim)
    (h : Replaying claim receipt phase) :
    Replaying claim receipt (deliverStep requests call input state phase).1 ∧
      (deliverStep requests call input state phase).2 = state := by
  obtain ⟨hread, hfailed⟩ := getReceiptOptional_stored hstored hbound
  rcases h with rfl | rfl | ⟨e, rfl⟩
  · unfold deliverStep
    simp only [hclaim]
    cases input.readFails with
    | false =>
      rw [hread]
      exact ⟨.inr (.inl rfl), rfl⟩
    | true =>
      rw [hfailed]
      exact ⟨.inr (.inr ⟨_, rfl⟩), rfl⟩
  · exact ⟨.inr (.inl rfl), rfl⟩
  · exact ⟨.inr (.inr ⟨e, rfl⟩), rfl⟩

theorem deliverStep_start_replays {generation : ℕ} (hclaim : claimFor (requests call) = .ok claim)
    (hstored : state.objects (receiptObjectName (requests call).bucket claim) =
      some ⟨.receipt receipt, generation⟩) (hbound : BoundTo receipt claim)
    (hinput : input.readFails = false) :
    (deliverStep requests call input state .start).1 = .returned ⟨claim, receipt, true⟩ := by
  unfold deliverStep
  simp only [hclaim, hinput, (getReceiptOptional_stored hstored hbound).1]

/-- What later turns keep of a stored receipt and of a call that had not begun and not sent. -/
theorem deliverCalls_replaying {turns : List (Turn NotificationInput)} {generation : ℕ}
    (hclaim : claimFor (requests call) = .ok claim)
    (hstored : (deliverCalls requests turns).shared.objects
      (receiptObjectName (requests call).bucket claim) = some ⟨.receipt receipt, generation⟩)
    (hbound : BoundTo receipt claim) (hstart : (deliverCalls requests turns).calls call = .start)
    (later : List (Turn NotificationInput)) :
    Replaying claim receipt ((deliverCalls requests (turns ++ later)).calls call) ∧
      (deliverCalls requests (turns ++ later)).shared.sends.filter (·.1 = call) =
        (deliverCalls requests turns).shared.sends.filter (·.1 = call) ∧
      (deliverCalls requests (turns ++ later)).shared.objects
        (receiptObjectName (requests call).bucket claim) = some ⟨.receipt receipt, generation⟩ := by
  induction later using List.reverseRecOn with
  | nil =>
    rw [List.append_nil]
    exact ⟨.inl hstart, rfl, hstored⟩
  | append_singleton later action ih =>
    obtain ⟨hphase, hsends, hkept⟩ := ih
    rw [← List.append_assoc]
    have hrun : deliverCalls requests (turns ++ later ++ [action]) =
        turn (deliverStep requests) (deliverCalls requests (turns ++ later)) action := run_concat
    set system := deliverCalls requests (turns ++ later) with hsystem
    have hmove := @deliverStep_move requests action.call action.input system.shared
      (system.calls action.call)
    rw [hrun, turn_shared]
    refine ⟨?_, ?_, hmove.extends_objects _ _ hkept⟩
    · by_cases hcall : call = action.call
      · subst hcall
        rw [turn_calls_self]
        exact (deliverStep_replaying hclaim hkept hbound hphase).1
      · rw [turn_calls_other hcall]
        exact hphase
    · by_cases hcall : call = action.call
      · subst hcall
        rw [(deliverStep_replaying hclaim hkept hbound hphase).2, hsends]
      · rcases hmove.sends_eq with hsame | ⟨_, -, -, happend⟩
        · rw [hsame, hsends]
        · rw [happend, List.filter_append, hsends]
          simp [Ne.symm hcall]

/-- For every bucket, terminal and chat, whatever the turns of the calls: at most one send; a call
that returns has its own receipt stored; and each stored receipt is that of a request, of which every
call that has not begun returns it, unless its read fails, and none sends. -/
theorem deliver_at_most_once (requests : ℕ → NotificationRequest)
    (turns : List (Turn NotificationInput)) :
    (∀ bucket terminalId chat, ((deliverCalls requests turns).shared.sends.filter fun send =>
      (requests send.1).IsFor bucket terminalId chat).length ≤ 1) ∧
    (∀ call completed, (deliverCalls requests turns).calls call = .returned completed →
      claimFor (requests call) = .ok completed.claim ∧
      BoundTo completed.receipt completed.claim ∧ ∃ generation,
        (deliverCalls requests turns).shared.objects
          (receiptObjectName (requests call).bucket completed.claim) =
            some ⟨.receipt completed.receipt, generation⟩) ∧
    (∀ name receipt generation,
      (deliverCalls requests turns).shared.objects name = some ⟨.receipt receipt, generation⟩ →
      ∃ author claim, claimFor (requests author) = .ok claim ∧
        name = receiptObjectName (requests author).bucket claim ∧
        ∀ call, requests call = requests author → (deliverCalls requests turns).calls call = .start →
          ∀ later, let system := deliverCalls requests (turns ++ later)
            Replaying claim receipt (system.calls call) ∧
            system.shared.sends.filter (·.1 = call) =
              (deliverCalls requests turns).shared.sends.filter (·.1 = call) ∧
            ∀ input : NotificationInput, input.readFails = false → system.calls call = .start →
              (turn (deliverStep requests) system ⟨call, input⟩).calls call =
                .returned ⟨claim, receipt, true⟩) := by
  obtain ⟨hattributed, hestablished⟩ := deliverCalls_holds requests turns
  have hexclusive := deliverCalls_exclusive requests turns
  refine ⟨fun bucket terminalId chat => ?_, fun call completed hreturned => ?_,
    fun name receipt generation hstored => ?_⟩
  · set mine := (deliverCalls requests turns).shared.sends.filter fun send =>
      (requests send.1).IsFor bucket terminalId chat with hmine
    have hmem : ∀ send ∈ mine, send ∈ (deliverCalls requests turns).shared.sends ∧
        (requests send.1).IsFor bucket terminalId chat := by
      intro send hsend
      simpa [hmine] using hsend
    cases hcases : mine with
    | nil => exact Nat.zero_le 1
    | cons first rest =>
      rw [← hcases]
      have hfirst : first ∈ mine := by
        rw [hcases]
        exact List.mem_cons_self
      have hnodup : (mine.map (·.2)).Nodup :=
        hexclusive.once.sublist (List.filter_sublist.map _)
      refine length_le_one_of_nodup_map hnodup (b := first.2) fun send hsend => ?_
      obtain ⟨hin, hfor⟩ := hmem send hsend
      obtain ⟨hin', hfor'⟩ := hmem first hfirst
      obtain ⟨claim, hclaim, hname⟩ := hattributed.sends send hin
      obtain ⟨claim', hclaim', hname'⟩ := hattributed.sends first hin'
      rw [hname, hname']
      exact claimObjectName_eq hfor hfor' hclaim hclaim'
  · have hcall := hestablished call
    rw [hreturned] at hcall
    exact hcall
  · obtain ⟨author, claim, hclaim, hname, hbound⟩ := hattributed.receipts name receipt generation hstored
    refine ⟨author, claim, hclaim, hname, fun call hsame hstart later => ?_⟩
    have hclaim' : claimFor (requests call) = .ok claim := hsame ▸ hclaim
    rw [hname, ← hsame] at hstored
    obtain ⟨hphase, hsends, hkept⟩ := deliverCalls_replaying hclaim' hstored hbound hstart later
    refine ⟨hphase, hsends, fun input hinput hbegin => ?_⟩
    rw [turn_calls_self, hbegin]
    exact deliverStep_start_replays hclaim' hkept hbound hinput

end Runs

end IndiaSwing
