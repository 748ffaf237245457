import X402Facilitator.Service.Settle
import X402Facilitator.Service.Worker

/-!
# Amounts as decimal texts

The source keeps amounts as decimal texts and compares them with `compare_decimal`, of which
`protocol.rs` and `config.rs` have a copy each. The rest of the development represents such a text by
the number it denotes. This module has the comparisons as they are made on the texts: of the settings
of the configuration file, of a request with the configured minimum, and of a journaled row with a
verified payment. Each is the comparison of the numbers, for texts of any length and with any number
of leading zeros.
-/

namespace X402Facilitator

/-! ## The two comparisons -/

/-- `compare_decimal` of `config.rs`. -/
def ServiceConfig.compareDecimal (left right : String) : Ordering :=
  let left := trimZeros left
  let right := trimZeros right
  (compare left.length right.length).then (compareOfLessAndEq left right)

/-- A longer numeral is greater once leading zeros are trimmed, and numerals of one length compare
digit by digit. -/
theorem compare_trimZeros {left right : String} (hl : IsNumeral left) (hr : IsNumeral right) :
    (compare (trimZeros left).length (trimZeros right).length).then
      (compareOfLessAndEq (trimZeros left) (trimZeros right)) =
        compare (numeralValue left) (numeralValue right) := by
  obtain hlt | heq | hgt := lt_trichotomy (trimZeros left).length (trimZeros right).length
  · rw [Nat.compare_eq_lt.mpr hlt]
    exact (Nat.compare_eq_lt.mpr (lt_of_length_lt hl.decimalValue? hr.decimalValue? hlt)).symm
  · have hleft := (trimZeros_spec hl.decimalValue?).1
    have hright := (trimZeros_spec hr.decimalValue?).1
    have hlt := decimal_lt_iff hleft hright heq
    have hgt := decimal_lt_iff hright hleft heq.symm
    rw [Nat.compare_eq_eq.mpr heq]
    change compareOfLessAndEq (trimZeros left) (trimZeros right) = _
    obtain h | h | h := lt_trichotomy (trimZeros left) (trimZeros right)
    · rw [compareOfLessAndEq, if_pos h]
      exact (Nat.compare_eq_lt.mpr (hlt.mp h)).symm
    · rw [h] at hleft
      rw [compareOfLessAndEq, h, if_neg (lt_irrefl _), if_pos rfl]
      exact (Nat.compare_eq_eq.mpr (Option.some.inj (hleft.symm.trans hright))).symm
    · rw [compareOfLessAndEq, if_neg h.not_gt, if_neg h.ne']
      exact (Nat.compare_eq_gt.mpr (hgt.mp h)).symm
  · rw [Nat.compare_eq_gt.mpr hgt]
    exact (Nat.compare_eq_gt.mpr (lt_of_length_lt hr.decimalValue? hl.decimalValue? hgt)).symm

theorem compareDecimal_eq {left right : String} (hl : IsNumeral left) (hr : IsNumeral right) :
    compareDecimal left right = compare (numeralValue left) (numeralValue right) :=
  compare_trimZeros hl hr

theorem ServiceConfig.compareDecimal_eq {left right : String} (hl : IsNumeral left)
    (hr : IsNumeral right) :
    ServiceConfig.compareDecimal left right = compare (numeralValue left) (numeralValue right) :=
  compare_trimZeros hl hr

theorem decimalIsAtLeast_iff_le {value minimum : String} (hv : IsNumeral value)
    (hm : IsNumeral minimum) :
    decimalIsAtLeast value minimum = true ↔ numeralValue minimum ≤ numeralValue value :=
  decimalIsAtLeast_iff hv.decimalValue? hm.decimalValue?

/-! ## The settings of the configuration file -/

/-- The settings that are decimal texts. -/
structure DecimalSettings where
  minimumAmount : String
  globalDailyYoctoNear : String
  defaultClientDailyYoctoNear : String
  reservationYoctoNear : String
  balanceWarningYoctoNear : String
  balanceHardStopYoctoNear : String

def validateUnsignedDecimal (name value : String) : Except String Unit :=
  if value = "" ∨ ¬ value.toList.all Char.isDigit then
    .error (name ++ " must be an unsigned base-10 integer string")
  else .ok ()

namespace DecimalSettings

/-- The texts in the order in which they are checked, under the names of the settings. -/
def named (settings : DecimalSettings) : List (String × String) :=
  [("minimum_amount", settings.minimumAmount),
    ("sponsorship.global_daily_yocto_near", settings.globalDailyYoctoNear),
    ("sponsorship.default_client_daily_yocto_near", settings.defaultClientDailyYoctoNear),
    ("sponsorship.reservation_yocto_near", settings.reservationYoctoNear),
    ("sponsorship.balance_warning_yocto_near", settings.balanceWarningYoctoNear),
    ("sponsorship.balance_hard_stop_yocto_near", settings.balanceHardStopYoctoNear)]

/-- The part of `ServiceConfig::validate` that looks at decimal texts. -/
def validate (settings : DecimalSettings) : Except String Unit := do
  forM settings.named fun (name, value) => validateUnsignedDecimal name value
  if ServiceConfig.compareDecimal settings.minimumAmount "1000" = .lt then
    .error "minimum_amount must be at least 1000 atomic USDC"
  else if ¬ ServiceConfig.compareDecimal settings.balanceHardStopYoctoNear
      settings.balanceWarningYoctoNear = .lt then
    .error "sponsorship.balance_hard_stop_yocto_near must be below the warning threshold"
  else if ServiceConfig.compareDecimal settings.reservationYoctoNear
        settings.defaultClientDailyYoctoNear = .gt ∨
      ServiceConfig.compareDecimal settings.reservationYoctoNear
        settings.globalDailyYoctoNear = .gt then
    .error "sponsorship reservation must not exceed either daily cap"
  else .ok ()

/-- The configuration has the numbers that the texts denote. -/
structure Denote (settings : DecimalSettings) (config : ServiceConfig) : Prop where
  minimumAmount : numeralValue settings.minimumAmount = config.minimumAmount
  globalDaily : numeralValue settings.globalDailyYoctoNear = config.globalDailyYoctoNear
  clientDaily : numeralValue settings.defaultClientDailyYoctoNear =
    config.defaultClientDailyYoctoNear
  reservation : numeralValue settings.reservationYoctoNear = config.reservationYoctoNear
  warning : numeralValue settings.balanceWarningYoctoNear = config.balanceWarningYoctoNear
  hardStop : numeralValue settings.balanceHardStopYoctoNear = config.balanceHardStopYoctoNear

end DecimalSettings

theorem validateUnsignedDecimal_ok_iff {name value : String} :
    validateUnsignedDecimal name value = .ok () ↔ IsNumeral value := by
  unfold validateUnsignedDecimal IsNumeral
  rw [← List.all_eq_true]
  constructor
  · intro h
    obtain ⟨hvalid, -⟩ := Except.of_ite_error h
    push Not at hvalid
    exact hvalid
  · rintro ⟨hempty, hdigits⟩
    exact if_neg (by simp [hempty, hdigits])

theorem forM_validateUnsignedDecimal_ok_iff {texts : List (String × String)} :
    (forM texts fun (name, value) => validateUnsignedDecimal name value) = .ok () ↔
      ∀ text ∈ texts, IsNumeral text.2 := by
  induction texts with
  | nil => exact ⟨fun _ => nofun, fun _ => rfl⟩
  | cons text texts ih =>
    obtain ⟨name, value⟩ := text
    rw [List.forM_cons, List.forall_mem_cons, ← ih, ← @validateUnsignedDecimal_ok_iff name]
    constructor
    · intro h
      obtain ⟨_, htext, htexts⟩ := Except.exists_of_bind h
      exact ⟨htext, htexts⟩
    · rintro ⟨htext, htexts⟩
      dsimp only at htext ⊢
      rw [htext]
      exact htexts

/-- On numerals, the checks are those that the launch policy makes on the numbers. -/
theorem DecimalSettings.validate_eq {settings : DecimalSettings} {config : ServiceConfig}
    (hdenote : settings.Denote config) (hnumerals : ∀ text ∈ settings.named, IsNumeral text.2) :
    settings.validate =
      if config.minimumAmount < 1000 then
        .error "minimum_amount must be at least 1000 atomic USDC"
      else if ¬ config.balanceHardStopYoctoNear < config.balanceWarningYoctoNear then
        .error "sponsorship.balance_hard_stop_yocto_near must be below the warning threshold"
      else if config.defaultClientDailyYoctoNear < config.reservationYoctoNear ∨
          config.globalDailyYoctoNear < config.reservationYoctoNear then
        .error "sponsorship reservation must not exceed either daily cap"
      else .ok () := by
  have hthousand : IsNumeral "1000" ∧ numeralValue "1000" = 1000 := by decide
  have hminimum := hnumerals _ (.head _)
  have hglobal := hnumerals _ (.tail _ (.head _))
  have hclient := hnumerals _ (.tail _ (.tail _ (.head _)))
  have hreservation := hnumerals _ (.tail _ (.tail _ (.tail _ (.head _))))
  have hwarning := hnumerals _ (.tail _ (.tail _ (.tail _ (.tail _ (.head _)))))
  have hhardStop := hnumerals _ (.tail _ (.tail _ (.tail _ (.tail _ (.tail _ (.head _))))))
  unfold validate
  rw [forM_validateUnsignedDecimal_ok_iff.mpr hnumerals, Except.ok_bind]
  simp only [ServiceConfig.compareDecimal_eq hminimum hthousand.1,
    ServiceConfig.compareDecimal_eq hhardStop hwarning,
    ServiceConfig.compareDecimal_eq hreservation hclient,
    ServiceConfig.compareDecimal_eq hreservation hglobal, hthousand.2, hdenote.minimumAmount,
    hdenote.hardStop, hdenote.warning, hdenote.reservation, hdenote.clientDaily,
    hdenote.globalDaily, Nat.compare_eq_lt, Nat.compare_eq_gt]

/-- The settings are accepted exactly if they are numerals and the numbers meet the thresholds. -/
theorem DecimalSettings.validate_ok_iff {settings : DecimalSettings} {config : ServiceConfig}
    (hdenote : settings.Denote config) :
    settings.validate = .ok () ↔
      (∀ text ∈ settings.named, IsNumeral text.2) ∧ 1000 ≤ config.minimumAmount ∧
        config.balanceHardStopYoctoNear < config.balanceWarningYoctoNear ∧
        config.reservationYoctoNear ≤ config.defaultClientDailyYoctoNear ∧
        config.reservationYoctoNear ≤ config.globalDailyYoctoNear := by
  by_cases hnumerals : ∀ text ∈ settings.named, IsNumeral text.2
  · rw [validate_eq hdenote hnumerals, and_iff_right hnumerals]
    constructor
    · intro h
      obtain ⟨hminimum, h⟩ := Except.of_ite_error h
      obtain ⟨hwarning, h⟩ := Except.of_ite_error h
      obtain ⟨hcaps, -⟩ := Except.of_ite_error h
      omega
    · rintro ⟨hminimum, hwarning, hclient, hglobal⟩
      rw [if_neg (by omega), if_neg (by omega), if_neg (by omega)]
  · refine ⟨fun h => ?_, fun h => absurd h.1 hnumerals⟩
    obtain ⟨_, hvalid, -⟩ := Except.exists_of_bind h
    exact absurd (forM_validateUnsignedDecimal_ok_iff.mp hvalid) hnumerals

/-- What the check of the texts refuses, the launch policy on numbers refuses with the same error. -/
theorem DecimalSettings.validate_error {settings : DecimalSettings} {config : ServiceConfig}
    {error : String} (hdenote : settings.Denote config)
    (hnumerals : ∀ text ∈ settings.named, IsNumeral text.2) (h : settings.validate = .error error) :
    config.validate = .error error := by
  rw [validate_eq hdenote hnumerals] at h
  unfold ServiceConfig.validate
  split_ifs at h ⊢
  all_goals exact h

/-! ## Requests and journaled rows -/

/-- The two-sided test of `run_new_settlement`, on the text of the NUMERIC column and on the text
that the payment carries. -/
def amountsAgree (journaled requested : String) : Bool :=
  decimalIsAtLeast journaled requested && decimalIsAtLeast requested journaled

theorem amountsAgree_iff {journaled requested : String} (hj : IsNumeral journaled)
    (hr : IsNumeral requested) :
    amountsAgree journaled requested = true ↔ numeralValue journaled = numeralValue requested := by
  rw [amountsAgree, Bool.and_eq_true, decimalIsAtLeast_iff_le hj hr, decimalIsAtLeast_iff_le hr hj]
  omega

theorem amountsAgree_toString {amount : Nat} {requested : String} (hr : IsNumeral requested) :
    amountsAgree (toString amount) requested = true ↔ amount = numeralValue requested := by
  obtain ⟨hnumeral, hvalue⟩ := isNumeral_toString amount
  rw [amountsAgree_iff hnumeral hr, hvalue]

/-- The comparison of the row with the payment holds exactly if the texts of the amounts pass the
test and everything else agrees. -/
theorem journaledMatches_iff_amountsAgree {journaled : Settlement} {payment : VerifiedPayment}
    {requested : String} (hr : IsNumeral requested)
    (hdenotes : numeralValue requested = payment.requirements.amountDecimal) :
    journaledMatches journaled payment = true ↔
      journaledMatches { journaled with amount := payment.requirements.amountDecimal } payment =
          true ∧
        amountsAgree (toString journaled.amount) requested = true := by
  rw [amountsAgree_toString hr, hdenotes]
  simp only [journaledMatches, decide_eq_true_eq]
  constructor
  · rintro ⟨hstate, hhash, hscope, hanchor, hpayer, hnetwork, hasset, hpayTo, hle, hge⟩
    exact ⟨⟨hstate, hhash, hscope, hanchor, hpayer, hnetwork, hasset, hpayTo, le_rfl, le_rfl⟩,
      Nat.le_antisymm hge hle⟩
  · rintro ⟨⟨hstate, hhash, hscope, hanchor, hpayer, hnetwork, hasset, hpayTo, -, -⟩, hamount⟩
    exact ⟨hstate, hhash, hscope, hanchor, hpayer, hnetwork, hasset, hpayTo, hamount.ge, hamount.le⟩

/-- An amount below the minimum is refused, and no other amount is refused as too small. -/
theorem staticFailureReason_iff_decimalIsAtLeast {config : ServiceConfig} {metadata : RequestMeta}
    {amount minimum : String} (ha : IsNumeral amount) (hm : IsNumeral minimum)
    (hamount : numeralValue amount = metadata.amount)
    (hminimum : numeralValue minimum = config.minimumAmount) :
    staticFailureReason config metadata =
      (staticFailureReason { config with minimumAmount := 0 } metadata).or
        (if decimalIsAtLeast amount minimum then none else some "amount_below_minimum") := by
  have hbelow : decimalIsAtLeast amount minimum = true ↔ ¬ metadata.amount < config.minimumAmount := by
    rw [decimalIsAtLeast_iff_le ha hm, hamount, hminimum, not_lt]
  simp only [staticFailureReason, Nat.not_lt_zero, if_false]
  cases hat : decimalIsAtLeast amount minimum with
  | true =>
    simp only [hbelow.mp hat, if_false, if_true]
    split_ifs <;> rfl
  | false =>
    have hlt : metadata.amount < config.minimumAmount := by
      by_contra hnot
      rw [hbelow.mpr hnot] at hat
      cases hat
    simp only [hlt, if_true, Bool.false_eq_true, if_false]
    split_ifs <;> rfl

/-- Both copies of `compare_decimal` order numerals as the numbers they denote, so
`decimal_is_at_least` is a total preorder that agrees with the order of the numbers. The two-sided
test holds exactly of equal amounts and is what the comparison of a row with its payment makes of
them; the minimum-amount policy is the test on the texts; and the thresholds of the configuration
hold of the numbers that the accepted texts denote, whatever their size. -/
theorem decimal_comparison_is_numeric :
    (∀ left right, IsNumeral left → IsNumeral right →
      compareDecimal left right = compare (numeralValue left) (numeralValue right) ∧
      ServiceConfig.compareDecimal left right =
        compare (numeralValue left) (numeralValue right) ∧
      (decimalIsAtLeast left right = true ↔ numeralValue right ≤ numeralValue left)) ∧
    ((∀ a, IsNumeral a → decimalIsAtLeast a a = true) ∧
      (∀ a b c, IsNumeral a → IsNumeral b → IsNumeral c → decimalIsAtLeast a b = true →
        decimalIsAtLeast b c = true → decimalIsAtLeast a c = true) ∧
      ∀ a b, IsNumeral a → IsNumeral b →
        decimalIsAtLeast a b = true ∨ decimalIsAtLeast b a = true) ∧
    (∀ (journaled : Settlement) (payment : VerifiedPayment) requested, IsNumeral requested →
      numeralValue requested = payment.requirements.amountDecimal →
      (amountsAgree (toString journaled.amount) requested = true ↔
        journaled.amount = payment.requirements.amountDecimal) ∧
      (journaledMatches journaled payment = true ↔
        journaledMatches { journaled with amount := payment.requirements.amountDecimal } payment =
            true ∧
          amountsAgree (toString journaled.amount) requested = true)) ∧
    (∀ (config : ServiceConfig) (metadata : RequestMeta) amount minimum,
      IsNumeral amount → IsNumeral minimum → numeralValue amount = metadata.amount →
      numeralValue minimum = config.minimumAmount →
      staticFailureReason config metadata =
        (staticFailureReason { config with minimumAmount := 0 } metadata).or
          (if decimalIsAtLeast amount minimum then none else some "amount_below_minimum")) ∧
    (∀ (settings : DecimalSettings) (config : ServiceConfig), settings.Denote config →
      (settings.validate = .ok () ↔
        (∀ text ∈ settings.named, IsNumeral text.2) ∧ 1000 ≤ config.minimumAmount ∧
          config.balanceHardStopYoctoNear < config.balanceWarningYoctoNear ∧
          config.reservationYoctoNear ≤ config.defaultClientDailyYoctoNear ∧
          config.reservationYoctoNear ≤ config.globalDailyYoctoNear) ∧
      ∀ error, (∀ text ∈ settings.named, IsNumeral text.2) → settings.validate = .error error →
        config.validate = .error error) ∧
    ∀ (config : ServiceConfig) eip155, config.validate = .ok () → config.chainKind = .eip155 →
      config.eip155 = some eip155 →
      eip155.gasLimit * eip155.maxFeePerGasWei < config.reservationYoctoNear ∧
        config.reservationYoctoNear < 2 ^ 128 := by
  refine ⟨fun left right hl hr => ⟨compareDecimal_eq hl hr, ServiceConfig.compareDecimal_eq hl hr,
    decimalIsAtLeast_iff_le hl hr⟩, ⟨?_, ?_, ?_⟩, ?_, ?_, ?_, ?_⟩
  · intro a ha
    exact (decimalIsAtLeast_iff_le ha ha).mpr le_rfl
  · intro a b c ha hb hc hab hbc
    rw [decimalIsAtLeast_iff_le ha hb] at hab
    rw [decimalIsAtLeast_iff_le hb hc] at hbc
    exact (decimalIsAtLeast_iff_le ha hc).mpr (hbc.trans hab)
  · intro a b ha hb
    rw [decimalIsAtLeast_iff_le ha hb, decimalIsAtLeast_iff_le hb ha]
    exact le_total _ _
  · intro journaled payment requested hr hdenotes
    refine ⟨?_, journaledMatches_iff_amountsAgree hr hdenotes⟩
    rw [amountsAgree_toString hr, hdenotes]
  · intro config metadata amount minimum ha hm hamount hminimum
    exact staticFailureReason_iff_decimalIsAtLeast ha hm hamount hminimum
  · intro settings config hdenote
    exact ⟨DecimalSettings.validate_ok_iff hdenote,
      fun error hnumerals => DecimalSettings.validate_error hdenote hnumerals⟩
  · intro config eip155 hvalid hkind heip155
    exact (ServiceConfig.launchesEip155 hvalid hkind heip155).reservation

end X402Facilitator
