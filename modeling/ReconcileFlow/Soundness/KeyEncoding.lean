import ReconcileFlow.Model.Parsers
import ReconcileFlow.ToMathlib.Separators

/-! # When two mismatch keys hash the same text

The fields of a key are joined by `|` and none of them is escaped. The reason, the payment type and
the role never contain the separator, so they are read off the two ends of the text. The two ids in
the middle are free text of the files: their split is lost exactly when one order id continues over a
separator into what the other tuple has as its settlement id.
-/

namespace ReconcileFlow

theorem ExceptionReason.value_injective (first second : ExceptionReason)
    (same : first.value = second.value) : first = second := by
  revert same
  cases first <;> cases second <;> decide

theorem RecipientRole.value_injective (first second : RecipientRole)
    (same : first.value = second.value) : first = second := by
  revert same
  cases first <;> cases second <;> decide

/-- The text of a payment type in the key. -/
def paymentText (paymentType : Option PaymentType) : String :=
  (paymentType.map PaymentType.value).getD paymentTypeWildcard

theorem paymentText_injective (first second : Option PaymentType)
    (same : paymentText first = paymentText second) : first = second := by
  revert same
  rcases first with _ | first <;> rcases second with _ | second
  · decide
  · cases second <;> decide
  · cases first <;> decide
  · cases first <;> cases second <;> decide

/-- What the mismatch key of a routed exception is computed from. -/
structure RoutedKey where
  reason : ExceptionReason
  orderId : Option String
  settlementId : Option String
  paymentType : Option PaymentType
  recipientRole : RecipientRole
deriving DecidableEq, Repr

namespace RoutedKey

/-- The text that is hashed. -/
def text (fields : RoutedKey) : String :=
  mismatchText fields.reason fields.orderId fields.settlementId fields.paymentType fields.recipientRole

/-- The mismatch key. -/
def key (fields : RoutedKey) : String :=
  makeMismatchKey fields.reason fields.orderId fields.settlementId fields.paymentType fields.recipientRole

theorem key_eq (fields : RoutedKey) : fields.key = sha1Hex fields.text := rfl

/-- The ids are what the readers accept: absent, or stripped and not empty. -/
structure Readable (fields : RoutedKey) : Prop where
  orderId : cleanCell fields.orderId = fields.orderId
  settlementId : cleanCell fields.settlementId = fields.settlementId

instance (fields : RoutedKey) : Decidable fields.Readable :=
  decidable_of_iff (cleanCell fields.orderId = fields.orderId ∧
      cleanCell fields.settlementId = fields.settlementId)
    ⟨fun both => ⟨both.1, both.2⟩, fun readable => ⟨readable.orderId, readable.settlementId⟩⟩

/-- The tuples agree, where an absent id counts as the empty text. -/
structure Alike (first second : RoutedKey) : Prop where
  reason : first.reason = second.reason
  orderId : first.orderId.getD "" = second.orderId.getD ""
  settlementId : first.settlementId.getD "" = second.settlementId.getD ""
  paymentType : first.paymentType = second.paymentType
  recipientRole : first.recipientRole = second.recipientRole

/-- The order id of `second` is that of `first` and, behind a separator, a text with which the
settlement id of `first` starts: behind it stands a separator and the settlement id of `second`. -/
structure Shifted (first second : RoutedKey) : Prop where
  reason : first.reason = second.reason
  paymentType : first.paymentType = second.paymentType
  recipientRole : first.recipientRole = second.recipientRole
  ids : ∃ middle : String,
    second.orderId.getD "" = first.orderId.getD "" ++ "|" ++ middle ∧
    first.settlementId.getD "" = middle ++ "|" ++ second.settlementId.getD ""

/-- The two ids as they stand in the text. -/
def idPart (fields : RoutedKey) : List Char :=
  (fields.orderId.getD "").toList ++ '|' :: (fields.settlementId.getD "").toList

/-- The ids between the parts that are free of the separator. -/
theorem text_toList (fields : RoutedKey) : fields.text.toList =
    fields.reason.value.toList ++ '|' ::
      (fields.idPart ++ '|' :: (paymentText fields.paymentType).toList ++ '|' ::
        fields.recipientRole.value.toList) := by
  unfold text mismatchText idPart paymentText
  simp [String.intercalate_cons_cons]

theorem reason_free (reason : ExceptionReason) : '|' ∉ reason.value.toList := by
  cases reason <;> decide

theorem payment_free (paymentType : Option PaymentType) : '|' ∉ (paymentText paymentType).toList := by
  cases paymentType with
  | none => decide
  | some paymentType => cases paymentType <;> decide

theorem role_free (role : RecipientRole) : '|' ∉ role.value.toList := by
  cases role <;> decide

/-- Everything but the split of the ids is read off the text. -/
theorem text_eq_iff (first second : RoutedKey) : first.text = second.text ↔
    first.reason = second.reason ∧ first.idPart = second.idPart ∧
      first.paymentType = second.paymentType ∧ first.recipientRole = second.recipientRole := by
  rw [← String.toList_inj, text_toList, text_toList,
    Separators.join_inj_of_left (reason_free _) (reason_free _),
    Separators.join_inj_of_right (role_free _) (role_free _),
    Separators.join_inj_of_right (payment_free _) (payment_free _)]
  simp only [String.toList_inj]
  constructor
  · rintro ⟨reason, ⟨ids, payment⟩, role⟩
    exact ⟨ExceptionReason.value_injective _ _ reason, ids, paymentText_injective _ _ payment,
      RecipientRole.value_injective _ _ role⟩
  · rintro ⟨reason, ids, payment, role⟩
    exact ⟨congrArg _ reason, ⟨ids, congrArg _ payment⟩, congrArg _ role⟩

/-- Ids of one joined text are shifted as texts if they are shifted as lists. -/
theorem shifted_ids_iff (first second : RoutedKey) :
    (∃ middle, (second.orderId.getD "").toList = (first.orderId.getD "").toList ++ '|' :: middle ∧
        (first.settlementId.getD "").toList = middle ++ '|' :: (second.settlementId.getD "").toList) ↔
      ∃ middle : String, second.orderId.getD "" = first.orderId.getD "" ++ "|" ++ middle ∧
        first.settlementId.getD "" = middle ++ "|" ++ second.settlementId.getD "" := by
  constructor
  · rintro ⟨middle, order, settlement⟩
    refine ⟨String.ofList middle, String.toList_inj.mp ?_, String.toList_inj.mp ?_⟩
    · simpa using order
    · simpa using settlement
  · rintro ⟨middle, order, settlement⟩
    refine ⟨middle.toList, ?_, ?_⟩
    · simp [order]
    · simp [settlement]

/-- A reader never gives an empty id, so the two spellings of an absent id do not meet. -/
theorem readable_id_inj {first second : Option String} (read : cleanCell first = first)
    (read' : cleanCell second = second) (same : first.getD "" = second.getD "") : first = second := by
  have nonempty : ∀ {id : Option String}, cleanCell id = id → id ≠ some "" := by
    rintro id read rfl
    revert read
    decide
  cases first with
  | none =>
    cases second with
    | none => rfl
    | some id => exact (nonempty read' (congrArg some same.symm)).elim
  | some id =>
    cases second with
    | none => exact (nonempty read (congrArg some same)).elim
    | some other => exact congrArg some same

theorem Shifted.text_eq {first second : RoutedKey} (shifted : Shifted first second) :
    first.text = second.text := by
  refine (text_eq_iff first second).mpr
    ⟨shifted.reason, ?_, shifted.paymentType, shifted.recipientRole⟩
  exact Separators.join_eq_iff.mpr
    (Or.inr (Or.inl ((shifted_ids_iff first second).mpr shifted.ids)))

theorem Shifted.ne {first second : RoutedKey} (shifted : Shifted first second) : first ≠ second := by
  rintro rfl
  obtain ⟨middle, order, -⟩ := shifted.ids
  have longer := congrArg String.length order
  rw [String.length_append, String.length_append, show "|".length = 1 from rfl] at longer
  omega

/-- Texts that agree come from tuples that agree or from two shifted ones. -/
theorem alike_or_shifted {first second : RoutedKey} (same : first.text = second.text) :
    Alike first second ∨ Shifted first second ∨ Shifted second first := by
  obtain ⟨reason, ids, payment, role⟩ := (text_eq_iff first second).mp same
  rcases Separators.join_eq_iff.mp ids with ⟨order, settlement⟩ | shifted | shifted
  · exact Or.inl ⟨reason, String.toList_inj.mp order, String.toList_inj.mp settlement, payment, role⟩
  · exact Or.inr (Or.inl ⟨reason, payment, role, (shifted_ids_iff first second).mp shifted⟩)
  · exact Or.inr (Or.inr
      ⟨reason.symm, payment.symm, role.symm, (shifted_ids_iff second first).mp shifted⟩)

theorem Alike.eq {first second : RoutedKey} (alike : Alike first second) (read : first.Readable)
    (read' : second.Readable) : first = second := by
  have orderId := readable_id_inj read.orderId read'.orderId alike.orderId
  have settlementId := readable_id_inj read.settlementId read'.settlementId alike.settlementId
  obtain ⟨reason, -, -, payment, role⟩ := alike
  cases first
  cases second
  simp only at reason orderId settlementId payment role
  subst reason orderId settlementId payment role
  rfl

/-- The text of a key determines the tuple exactly where its ids are not shifted against those of the
other tuple; where the two texts do not collide under the digest, the key determines as much. -/
theorem injective_iff (first second : RoutedKey) (read : first.Readable) (read' : second.Readable) :
    ((first.text = second.text → first = second) ↔
      ¬ Shifted first second ∧ ¬ Shifted second first) ∧
    ((sha1Hex first.text = sha1Hex second.text → first.text = second.text) →
      ((first.key = second.key → first = second) ↔
        ¬ Shifted first second ∧ ¬ Shifted second first)) := by
  have texts : (first.text = second.text → first = second) ↔
      ¬ Shifted first second ∧ ¬ Shifted second first := by
    constructor
    · intro injective
      exact ⟨fun shifted => shifted.ne (injective shifted.text_eq),
        fun shifted => shifted.ne (injective shifted.text_eq.symm).symm⟩
    · rintro ⟨apart, apart'⟩ same
      have alike := (alike_or_shifted same).resolve_right (not_or.mpr ⟨apart, apart'⟩)
      exact alike.eq read read'
  refine ⟨texts, fun noCollision => Iff.trans ?_ texts⟩
  rw [key_eq, key_eq]
  exact ⟨fun injective same => injective (congrArg sha1Hex same),
    fun injective same => injective (noCollision same)⟩

/-- A short settlement of an order. -/
def shortOf (orderId settlementId : String) : RoutedKey where
  reason := .amountShort
  orderId := some orderId
  settlementId := some settlementId
  paymentType := some .card
  recipientRole := .paymentGateway

theorem injective_iff_plain :
    ((shortOf "O1" "ST1").text = (shortOf "O1" "ST2").text → shortOf "O1" "ST1" = shortOf "O1" "ST2") ↔
      ¬ Shifted (shortOf "O1" "ST1") (shortOf "O1" "ST2") ∧
      ¬ Shifted (shortOf "O1" "ST2") (shortOf "O1" "ST1") :=
  (injective_iff (shortOf "O1" "ST1") (shortOf "O1" "ST2") (by decide) (by decide)).1

/-- The settlement `B|C` of the order `A` has the key of the settlement `C` of the order `A|B`. -/
theorem shifted_ids_share_key :
    (shortOf "A" "B|C").Readable ∧ (shortOf "A|B" "C").Readable ∧
      shortOf "A" "B|C" ≠ shortOf "A|B" "C" ∧
      (shortOf "A" "B|C").text = (shortOf "A|B" "C").text ∧
      (shortOf "A" "B|C").key = (shortOf "A|B" "C").key := by
  have texts : (shortOf "A" "B|C").text = (shortOf "A|B" "C").text := by decide
  exact ⟨by decide, by decide, by decide, texts, congrArg sha1Hex texts⟩

end RoutedKey

end ReconcileFlow
