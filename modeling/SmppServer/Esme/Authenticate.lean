import SmppServer.Esme.Authorise
import SmppServer.Gwlib.Date

/-!
# Esme/Authenticate — what a successful bind proves

`authorise_user` decides on texts that may be missing or malformed: a bind without password is not
compared with the account's, and a date that `strptime` cannot read counts as the beginning of 1970.  A
date that can be read is converted with whatever the stack held for daylight saving, and may be off by
the hour.

* `authoriseUser_ret_eq_zero_iff` — the binds that are let in.
* `authenticated_iff_guarded` — these are authenticated **exactly** when none of the degenerate inputs
  is among them.
-/

namespace SmppServer.SmppEsme

/-! ## The account's side

`Admitted` is what the checks ask, read off the code; `Authenticated` is what they are for.  The difference is
in the degenerate inputs, which `Guarded` names one by one. -/

/-- The mode that `create_onetrans` gives an account, by its `mode` and `rx-allowed`; other accounts are
refused. -/
def allowedModeOf (mode : Octstr) (rxAllowed : Bool) : Option ℤ :=
  if rxAllowed ∧ mode ≠ octstrImm "tx" then none
  else if mode = octstrImm "tx" ∧ rxAllowed then some 4
  else if mode = octstrImm "tx" then some 1
  else if mode = octstrImm "rx" then some 2
  else if mode = octstrImm "txrx" then some 3
  else none

/-- The accounts are as `create_onetrans` makes them. -/
def ModesConfigured (translations : List SmscClient) : Prop :=
  ∀ t ∈ translations, ∃ mode rxAllowed, allowedModeOf mode rxAllowed = some t.allowedMode

/-- The account may be bound in the mode: its own, or one of the two that it combines. -/
def SmscClient.Allows (t : SmscClient) (mode : ℤ) : Prop :=
  mode = t.allowedMode ∨ t.allowedMode = 4 ∧ (mode = 1 ∨ mode = 2)

theorem allowedModeOf_range {mode : Octstr} {rxAllowed : Bool} {allowed : ℤ}
    (h : allowedModeOf mode rxAllowed = some allowed) : 1 ≤ allowed ∧ allowed ≤ 4 := by
  unfold allowedModeOf at h
  split_ifs at h <;> rw [Option.some.injEq] at h <;> omega

/-- The clock of the server: the dates of the accounts are converted by `to_seconds`. -/
def systemClock (gwMktime : Tm → ℤ) (now isdst1 isdst3 : ℤ) : Clock :=
  ⟨now, isdst1, isdst3, toSeconds gwMktime⟩

section Authenticate

variable (gwMktime : Tm → ℤ) (now : ℤ) (env : AuthEnv) (r : Registry) (pdu : BindPdu) (mode : ℤ)

/-- **The bind is authenticated**: it names an account, carries its password (an empty one is not
sent), asks for a mode that the account allows, and the time is within the account's dates, each taken
for the time that it names where the server is. -/
def Authenticated : Prop :=
  ∃ name t, pdu.systemId = some name ∧
    env.translations.find? (fun t => name = t.accountName) = some t ∧
    pdu.password.getD [] = t.password ∧ t.Allows mode ∧
    ∃ validfrom validto, strptime (-1) t.validfrom = some validfrom ∧
      strptime (-1) t.validto = some validto ∧ gwMktime validfrom ≤ now ∧ now ≤ gwMktime validto

/-- The bind passes the checks of `authorise_user` against an account. -/
structure Admitted (t : SmscClient) : Prop where
  password : pdu.password = none ∨ pdu.password = some t.password
  allowed : t.Allows mode
  validfrom : env.clock.toSeconds env.clock.isdst1 t.validfrom ≤ env.clock.now
  validto : env.clock.now ≤ env.clock.toSeconds env.clock.isdst3 t.validto
  sessions : sessionLimitHit mode t (isPresentEsme r pdu.systemId) = false

/-- The leftover `tm_isdst` does not let the time pass behind the date. -/
def SettledFrom (validfrom : Octstr) : Prop :=
  ∃ tm, strptime (-1) validfrom = some tm ∧
    (gwMktime { tm with tmIsdst := env.clock.isdst1 } ≤ env.clock.now → gwMktime tm ≤ env.clock.now)

/-- The leftover `tm_isdst` does not let the time pass before the date. -/
def SettledTo (validto : Octstr) : Prop :=
  ∃ tm, strptime (-1) validto = some tm ∧
    (env.clock.now ≤ gwMktime { tm with tmIsdst := env.clock.isdst3 } → env.clock.now ≤ gwMktime tm)

/-- **No degenerate input is let in**: if the bind passes the checks, then it carries a password, unless
the account's is empty, and the dates of the account can be read, and mean what they say whatever
`tm_isdst` was before. -/
def Guarded : Prop :=
  ∀ name t, pdu.systemId = some name →
    env.translations.find? (fun t => name = t.accountName) = some t → Admitted env r pdu mode t →
      (pdu.password = none → t.password = []) ∧ SettledFrom gwMktime env t.validfrom ∧
        SettledTo gwMktime env t.validto

end Authenticate

section Proofs

variable {gwMktime : Tm → ℤ} {now isdst1 isdst3 : ℤ} {env : AuthEnv} {r : Registry} {pdu : BindPdu} {mode : ℤ}
  {tc : TempConn} {t : SmscClient}

/-- The date check refuses a time before the one date or after the other. -/
theorem compareDate_iff :
    (compareDate env.clock (some t.validfrom) (some t.validto) ≠ .yourAccountWillValidAfterSometime ∧
      compareDate env.clock (some t.validfrom) (some t.validto) ≠ .yourAccountIsNotValid) ↔
    env.clock.toSeconds env.clock.isdst1 t.validfrom ≤ env.clock.now ∧
      env.clock.now ≤ env.clock.toSeconds env.clock.isdst3 t.validto := by
  simp only [compareDate]
  split_ifs <;> simp <;> omega

/-- The checks of password, mode and dates. -/
theorem accountRefusal_eq_none_iff (hmode : t.allowedMode ≤ 4) (hrange : 1 ≤ mode ∧ mode ≤ 4) :
    accountRefusal env pdu mode t = none ↔
      (pdu.password = none ∨ pdu.password = some t.password) ∧ t.Allows mode ∧
        env.clock.toSeconds env.clock.isdst1 t.validfrom ≤ env.clock.now ∧
        env.clock.now ≤ env.clock.toSeconds env.clock.isdst3 t.validto := by
  rw [← compareDate_iff, accountRefusal]
  split_ifs with hpassword hown hboth
  · simp [not_or.mpr hpassword]
  · have hno : ¬ t.Allows mode := by
      unfold SmscClient.Allows
      omega
    simp [hno]
  · have hno : ¬ t.Allows mode := by
      unfold SmscClient.Allows
      omega
    simp [hno]
  · have hpass : pdu.password = none ∨ pdu.password = some t.password := by
      by_contra h
      exact hpassword (not_or.mp h)
    have hallows : t.Allows mode := by
      unfold SmscClient.Allows
      omega
    cases compareDate env.clock (some t.validfrom) (some t.validto) <;> simp [hpass, hallows]

theorem SmscClient.Allows.range (hallows : t.Allows mode)
    (hmode : 1 ≤ t.allowedMode ∧ t.allowedMode ≤ 4) : 1 ≤ mode ∧ mode ≤ 4 := by
  unfold SmscClient.Allows at hallows
  omega

/-- A bind that is let in was accepted by the first section of `authorise_user`. -/
theorem authoriseCheck_of_ret_eq_zero {res : AuthResult} (h : authoriseUser env r pdu mode tc = .ok res)
    (hret : res.ret = 0) : ∃ t present, authoriseCheck env r pdu mode = .ok (.accepted t present) := by
  unfold authoriseUser at h
  cases hc : authoriseCheck env r pdu mode with
  | error f =>
    rw [hc] at h
    exact absurd h (by simp)
  | ok checked =>
    cases checked with
    | accepted t present => exact ⟨t, present, rfl⟩
    | refused ret =>
      rw [hc] at h
      obtain rfl := Except.ok.inj h
      obtain rfl : ret = 0 := hret
      obtain ⟨h, -⟩ | h := authoriseCheck_refused hc
      · exact absurd h (by decide)
      · exact absurd h (by decide)

/-- A bind that the first section accepts is let in. -/
theorem authoriseUser_of_accepted {present : Option ℕ}
    (h : authoriseCheck env r pdu mode = .ok (.accepted t present)) :
    ∃ res, authoriseUser env r pdu mode tc = .ok res ∧ res.ret = 0 := by
  obtain ⟨⟨h1, h4⟩, ⟨name, hn, -⟩, -⟩ := authoriseCheck_accepted h
  obtain ⟨ret, -, hu⟩ | ⟨t, -, -, hu⟩ | ⟨t, a, e, -, -, hu⟩ := authoriseUser_cases env r tc hn h1 h4
  · unfold authoriseUser at hu
    simp only [h] at hu
    split at hu
    · exact absurd hu (by simp)
    · exact absurd (congrArg AuthResult.esme (Except.ok.inj hu)) (by simp)
  · exact ⟨_, hu, rfl⟩
  · exact ⟨_, hu, rfl⟩

/-- **The binds that are let in.** -/
theorem authoriseUser_ret_eq_zero_iff (hmodes : ModesConfigured env.translations) :
    (∃ res, authoriseUser env r pdu mode tc = .ok res ∧ res.ret = 0) ↔
      ∃ name t, pdu.systemId = some name ∧
        env.translations.find? (fun t => name = t.accountName) = some t ∧ Admitted env r pdu mode t := by
  have hrange : ∀ {name t}, env.translations.find? (fun t => name = t.accountName) = some t →
      1 ≤ t.allowedMode ∧ t.allowedMode ≤ 4 := by
    intro name t ht
    obtain ⟨word, rx, hword⟩ := hmodes t (List.mem_of_find?_eq_some ht)
    exact allowedModeOf_range hword
  constructor
  · rintro ⟨res, hres, hret⟩
    obtain ⟨t, present, hcheck⟩ := authoriseCheck_of_ret_eq_zero hres hret
    obtain ⟨hmode, ⟨name, hn, ht⟩, hnone, hlimit, -⟩ := authoriseCheck_accepted hcheck
    obtain ⟨hpassword, hallows, hfrom, hto⟩ :=
      (accountRefusal_eq_none_iff (hrange ht).2 hmode).mp hnone
    exact ⟨name, t, hn, ht, hpassword, hallows, hfrom, hto, hlimit⟩
  · rintro ⟨name, t, hn, ht, hadm⟩
    have hmode := hadm.allowed.range (hrange ht)
    have hnone := (accountRefusal_eq_none_iff (hrange ht).2 hmode).mpr
      ⟨hadm.password, hadm.allowed, hadm.validfrom, hadm.validto⟩
    have hlimit := hadm.sessions
    suffices hcheck : authoriseCheck env r pdu mode =
        .ok (.accepted t ((isPresentEsme r pdu.systemId).map Prod.fst)) from
      authoriseUser_of_accepted hcheck
    rw [authoriseCheck, if_neg (by omega)]
    rw [hn] at hlimit ⊢
    simp only [smppClientFindUsername_some, ht, hnone, hlimit, Bool.false_eq_true, if_false]

/-- A date that can be read is converted with the leftover `tm_isdst`. -/
theorem toSeconds_of_strptime {date : Octstr} {tm : Tm} (h : strptime (-1) date = some tm)
    (tmIsdst : ℤ) : toSeconds gwMktime tmIsdst date = gwMktime { tm with tmIsdst := tmIsdst } := by
  rw [toSeconds, strptime_eq_map, h]
  rfl

/-- An admitted bind is authenticated if its password and the dates of the account are not
degenerate. -/
theorem Admitted.authenticated_iff {name : Octstr} (hclock : env.clock = systemClock gwMktime now isdst1 isdst3)
    (hn : pdu.systemId = some name)
    (ht : env.translations.find? (fun t => name = t.accountName) = some t)
    (hadm : Admitted env r pdu mode t) :
    Authenticated gwMktime now env pdu mode ↔ (pdu.password = none → t.password = []) ∧
      SettledFrom gwMktime env t.validfrom ∧ SettledTo gwMktime env t.validto := by
  have hfrom := hadm.validfrom
  have hto := hadm.validto
  simp only [hclock, systemClock] at hfrom hto
  simp only [SettledFrom, SettledTo, hclock, systemClock]
  constructor
  · rintro ⟨name', t', hn', ht', hpassword, -, vf, vt, hvf, hvt, hlow, hhigh⟩
    obtain rfl : name = name' := Option.some.inj (hn.symm.trans hn')
    obtain rfl : t = t' := Option.some.inj (ht.symm.trans ht')
    refine ⟨fun hnone => ?_, ⟨vf, hvf, fun _ => hlow⟩, ⟨vt, hvt, fun _ => hhigh⟩⟩
    rw [hnone] at hpassword
    exact hpassword.symm
  · rintro ⟨hempty, ⟨vf, hvf, hlow⟩, ⟨vt, hvt, hhigh⟩⟩
    rw [toSeconds_of_strptime hvf] at hfrom
    rw [toSeconds_of_strptime hvt] at hto
    refine ⟨name, t, hn, ht, ?_, hadm.allowed, vf, vt, hvf, hvt, hlow hfrom, hhigh hto⟩
    obtain hp | hp := hadm.password
    · rw [hp, hempty hp, Option.getD_none]
    · rw [hp, Option.getD_some]

/-- **Authentication is sound exactly where it is guarded**: a bind is let in only if it is
authenticated, unless it comes without the account's password, or a date of the account cannot be
read, or the time lies between what the date says and what the leftover `tm_isdst` makes of it. -/
theorem authenticated_iff_guarded (hmodes : ModesConfigured env.translations)
    (hclock : env.clock = systemClock gwMktime now isdst1 isdst3) :
    (∀ res, authoriseUser env r pdu mode tc = .ok res → res.ret = 0 →
      Authenticated gwMktime now env pdu mode) ↔ Guarded gwMktime env r pdu mode := by
  constructor
  · intro hsound name t hn ht hadm
    obtain ⟨res, hres, hret⟩ := (authoriseUser_ret_eq_zero_iff hmodes).mpr ⟨name, t, hn, ht, hadm⟩
    exact (hadm.authenticated_iff hclock hn ht).mp (hsound res hres hret)
  · intro hguarded res hres hret
    obtain ⟨name, t, hn, ht, hadm⟩ := (authoriseUser_ret_eq_zero_iff hmodes).mp ⟨res, hres, hret⟩
    exact (hadm.authenticated_iff hclock hn ht).mpr (hguarded name t hn ht hadm)

end Proofs

/-! ## A small configuration -/

/-- `gw_mktime` in the time zone UTC, for dates from 1970 on. -/
def sampleMktime (tm : Tm) : ℤ :=
  let year := tm.tmYear + 1900
  let leaps := (year - 1) / 4 - (year - 1) / 100 + (year - 1) / 400
  let leap := year % 4 = 0 ∧ (year % 100 ≠ 0 ∨ year % 400 = 0)
  let before : ℤ := ([0, 31, 59, 90, 120, 151, 181, 212, 243, 273, 304, 334].getD tm.tmMon 0 : ℕ)
  let days := (year - 1970) * 365 + (leaps - 477) + before + (if leap ∧ 1 < tm.tmMon then 1 else 0) +
    (tm.tmMday - 1)
  days * 86400 + tm.tmHour * 3600 + tm.tmMin * 60 + tm.tmSec

/-- The server of `sampleEnv` with the clock of the system. -/
def sampleClockEnv : AuthEnv := { sampleEnv with clock := systemClock sampleMktime 1700000000 0 0 }

theorem modesConfigured_sampleClockEnv : ModesConfigured sampleClockEnv.translations := by
  intro t ht
  rw [List.mem_singleton.mp ht]
  exact ⟨octstrImm "tx", false, by decide⟩

/-- The account lets a bind in that carries its password or none. -/
theorem authoriseUser_sampleClockEnv {pdu : BindPdu} (hn : pdu.systemId = some (octstrImm "acme"))
    (hpassword : pdu.password = none ∨ pdu.password = some (octstrImm "secret")) :
    ∃ res, authoriseUser sampleClockEnv .empty pdu 1
      (tempconnCreate 0 (octstrImm "10.0.0.1") 4000 2775 1) = .ok res ∧ res.ret = 0 := by
  have hadm : Admitted sampleClockEnv .empty pdu 1 sampleClient :=
    ⟨hpassword, .inl rfl, by decide, by decide, by rw [hn]; decide⟩
  exact (authoriseUser_ret_eq_zero_iff modesConfigured_sampleClockEnv).mpr
    ⟨octstrImm "acme", sampleClient, hn, by decide, hadm⟩

theorem authenticated_samplePdu :
    ∃ res, authoriseUser sampleClockEnv .empty samplePdu 1
        (tempconnCreate 0 (octstrImm "10.0.0.1") 4000 2775 1) = .ok res ∧ res.ret = 0 ∧
      Authenticated sampleMktime 1700000000 sampleClockEnv samplePdu 1 := by
  have hguarded : Guarded sampleMktime sampleClockEnv .empty samplePdu 1 := by
    intro name t _ ht _
    rw [List.mem_singleton.mp (List.mem_of_find?_eq_some ht)]
    exact ⟨by simp [samplePdu], ⟨⟨0, 0, 0, 1, 0, 120, -1⟩, by decide, by decide⟩,
      ⟨⟨0, 0, 0, 1, 0, 130, -1⟩, by decide, by decide⟩⟩
  obtain ⟨res, hres, hret⟩ := @authoriseUser_sampleClockEnv samplePdu rfl (.inr rfl)
  exact ⟨res, hres, hret,
    (authenticated_iff_guarded modesConfigured_sampleClockEnv rfl).mpr hguarded res hres hret⟩

/-- A bind without password is let in to an account that has one. -/
theorem not_authenticated_without_password :
    ¬ ∀ (pdu : BindPdu) (res : AuthResult), authoriseUser sampleClockEnv .empty pdu 1
        (tempconnCreate 0 (octstrImm "10.0.0.1") 4000 2775 1) = .ok res → res.ret = 0 →
      Authenticated sampleMktime 1700000000 sampleClockEnv pdu 1 := by
  intro hsound
  obtain ⟨res, hres, hret⟩ :=
    @authoriseUser_sampleClockEnv { samplePdu with password := none } rfl (.inl rfl)
  obtain ⟨name, t, -, ht, hpassword, -⟩ := hsound _ res hres hret
  rw [List.mem_singleton.mp (List.mem_of_find?_eq_some ht)] at hpassword
  exact absurd hpassword (by decide)

end SmppServer.SmppEsme
