import SmppServer.Esme.RoutPdu

/-!
# Esme/NumberType — the series of the configuration and the type of a number

`init_connect_ip` reads the number series from the configuration and puts an empty series where one is
not set, so none of them is `NULL` afterwards.  `rout_pdu` takes `NULL` for a series that is not set, and
looks at the next series only then: the CDMA and the international series are never looked at.

* `numberType_initConnectIp` — what is left of the classification: GSM, or the default series.
* `numberType_eq_classify_iff` — when that is the type of the first series the number belongs to.
-/

namespace SmppServer.SmppEsme

/-! ## The code

No series is `NULL` behind this. -/

/-- The series in the group `core` of the configuration. -/
structure CoreGroup where
  gsmSeries : Option Octstr
  cdmaSeries : Option Octstr
  intSeries : Option Octstr
  defaultSeries : Option Octstr
  deriving DecidableEq, Repr

/-- The default series; a name that is no type of a number is replaced. -/
def CoreGroup.default (grp : CoreGroup) : Octstr :=
  match grp.defaultSeries with
  | none => octstrImm "gsm"
  | some series =>
    if series = octstrImm "gsm" ∨ series = octstrImm "cdma" ∨ series = octstrImm "int" ∨
        series = octstrImm "all" then series
    else octstrImm "gsm"

/-- **The series that `init_connect_ip` sets.** -/
def initConnectIp (grp : CoreGroup) : Series where
  gsmSeries := some (grp.gsmSeries.getD (octstrImm ""))
  cdmaSeries := some (grp.cdmaSeries.getD (octstrImm ""))
  intSeries := some (grp.intSeries.getD (octstrImm ""))
  defaultSeries := grp.default

/-! ## Classification

The classification that the three tests suggest, beside what is left of it when every series is set. -/

/-- The prefixes of a series, between semicolons. -/
def prefixes (series : Octstr) : List Octstr := (series.splitOn 59).filter (· ≠ [])

/-- The number starts with a prefix of the series. -/
def InSeries (series : Option Octstr) (destAddr : Octstr) : Prop :=
  ∃ start ∈ prefixes (series.getD (octstrImm "")), start <+: destAddr

instance (series : Option Octstr) (destAddr : Octstr) : Decidable (InSeries series destAddr) :=
  inferInstanceAs (Decidable (∃ start ∈ _, _))

/-- **The type of a number**: that of the first series it belongs to, or the default. -/
def classify (grp : CoreGroup) (destAddr : Octstr) : Octstr :=
  if InSeries grp.gsmSeries destAddr then octstrImm "gsm"
  else if InSeries grp.cdmaSeries destAddr then octstrImm "cdma"
  else if InSeries grp.intSeries destAddr then octstrImm "int"
  else grp.default

/-- `does_prefix_match` decides whether a number starts with one of the prefixes. -/
def DecidesPrefix (doesPrefixMatch : Octstr → Octstr → ℤ) : Prop :=
  ∀ series destAddr, doesPrefixMatch series destAddr = 1 ↔ InSeries (some series) destAddr

section Classify

variable {doesPrefixMatch : Octstr → Octstr → ℤ} {grp : CoreGroup} {destAddr : Octstr}

/-- **What is left of the classification.** -/
theorem numberType_initConnectIp (hlib : DecidesPrefix doesPrefixMatch) (grp : CoreGroup)
    (destAddr : Octstr) : numberType doesPrefixMatch (initConnectIp grp) destAddr =
      if InSeries grp.gsmSeries destAddr then octstrImm "gsm" else grp.default := by
  have hgsm : InSeries (some (grp.gsmSeries.getD (octstrImm ""))) destAddr ↔
      InSeries grp.gsmSeries destAddr := Iff.rfl
  simp only [numberType, initConnectIp, hlib _ _, hgsm]

/-- **When a number gets its type**: it belongs to the GSM series, or the default is the type of the
first series it belongs to. -/
theorem numberType_eq_classify_iff (hlib : DecidesPrefix doesPrefixMatch) :
    numberType doesPrefixMatch (initConnectIp grp) destAddr = classify grp destAddr ↔
      InSeries grp.gsmSeries destAddr ∨
        (InSeries grp.cdmaSeries destAddr → grp.default = octstrImm "cdma") ∧
          (¬ InSeries grp.cdmaSeries destAddr → InSeries grp.intSeries destAddr →
            grp.default = octstrImm "int") := by
  rw [numberType_initConnectIp hlib, classify]
  by_cases hgsm : InSeries grp.gsmSeries destAddr
  · simp [hgsm]
  · by_cases hcdma : InSeries grp.cdmaSeries destAddr
    · simp [hgsm, hcdma]
    · by_cases hint : InSeries grp.intSeries destAddr <;> simp [hgsm, hcdma, hint]

end Classify

/-- A library that looks for the prefixes of a series. -/
def samplePrefixMatch (series destAddr : Octstr) : ℤ := if InSeries (some series) destAddr then 1 else 0

theorem decidesPrefix_samplePrefixMatch : DecidesPrefix samplePrefixMatch := by
  intro series destAddr
  unfold samplePrefixMatch
  split <;> simp_all

/-- Numbers of two operators; all others are taken for GSM. -/
def sampleCoreGroup : CoreGroup where
  gsmSeries := some (octstrImm "9198;9199")
  cdmaSeries := some (octstrImm "9193")
  intSeries := none
  defaultSeries := none

theorem numberType_sampleCoreGroup :
    numberType samplePrefixMatch (initConnectIp sampleCoreGroup) (octstrImm "919912345678") =
      classify sampleCoreGroup (octstrImm "919912345678") :=
  (numberType_eq_classify_iff decidesPrefix_samplePrefixMatch).mpr (.inl (by decide))

/-- A number of the CDMA series is taken for a GSM number. -/
theorem not_numberType_eq_classify :
    ¬ ∀ doesPrefixMatch, DecidesPrefix doesPrefixMatch → ∀ (grp : CoreGroup) (destAddr : Octstr),
      numberType doesPrefixMatch (initConnectIp grp) destAddr = classify grp destAddr := by
  intro h
  have hcdma := h _ decidesPrefix_samplePrefixMatch sampleCoreGroup (octstrImm "919312345678")
  exact absurd hcdma (by decide)

end SmppServer.SmppEsme
