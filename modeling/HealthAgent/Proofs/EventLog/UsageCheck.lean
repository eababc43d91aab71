import HealthAgent.Proofs.EventLog.Replies
import HealthAgent.Proofs.Number.NotANumber
/-!
# When the log is cleared

A check asks for the usage if that is due, and for the clearing of the log if the usage is not at most
the threshold. Of two numbers the usage is then above the threshold, but a controller can also report a
usage that is no number: that is not at most any threshold, and the log is cleared.

Results:
* `runs_check`: what a completed check has asked for, and how it ends.
* `isNaN_percentUsed?`: the usage is no number exactly if the controller reports the word for that.
* `check_clears_iff`: when a check asks for the clearing of the log.
* `nan_clears_log`: a check that clears the log though no number is above the threshold.
-/
namespace HealthAgent
open Program World Number Text

/-! ## What a check does -/

/-- What a completed check has asked for with which answers, how it ends and what monitor it leaves. -/
inductive UsageMonitor.Checked (m : UsageMonitor) (now : Nat) :
    List Event → Except SourceError Bool → UsageMonitor → Prop
  | early (due : m.isDue now = false) : Checked m now [] (.ok false) m
  | untold (due : m.isDue now = true) (e : SourceError) :
      Checked m now [⟨.ask (.ipmi .logInfo), .error e⟩] (.error e) m
  | unknown (due : m.isDue now = true) (text : String)
      (percent : LogUsage.percentUsed? (Ipmi.parseInfo text) m.entrySize = none) :
      Checked m now [⟨.ask (.ipmi .logInfo), .ok text⟩] (.ok false) { m with lastQueried := some now }
  | low (due : m.isDue now = true) (text : String) (used : Float)
      (percent : LogUsage.percentUsed? (Ipmi.parseInfo text) m.entrySize = some used)
      (most : used ≤ m.threshold) :
      Checked m now [⟨.ask (.ipmi .logInfo), .ok text⟩] (.ok false) { m with lastQueried := some now }
  | full (due : m.isDue now = true) (text : String) (used : Float)
      (percent : LogUsage.percentUsed? (Ipmi.parseInfo text) m.entrySize = some used)
      (above : ¬ used ≤ m.threshold) (answer : Except SourceError String) :
      Checked m now [⟨.ask (.ipmi .logInfo), .ok text⟩, ⟨.ask (.ipmi .logClear), answer⟩]
        (match answer with
          | .ok _ => .ok true
          | .error e => if e.isTerminal then .error e else .ok false)
        { m with lastQueried := some now }

variable {ρ : Rules} {w v : World}

theorem Rules.Step.history (hρ : ρ.Orderly) {a : Act} {r : a.Answer} (h : ρ.Step w a r v) :
    v.history = w.history ++ [⟨a, r⟩] := by
  obtain ⟨u, hdrift, -, -, rfl⟩ := h
  simp only [World.after, (hρ w u hdrift).history]

/-- What a completed check has asked for, and how it ends. -/
theorem runs_check (hρ : ρ.Orderly) {m m' : UsageMonitor} {now : Nat} {r : Except SourceError Bool}
    (h : Runs ρ.Step (acts (m.check now)) w (some (r, m')) v) :
    ∃ evs, v.history = w.history ++ evs ∧ m.Checked now evs r m' := by
  unfold UsageMonitor.check at h
  split at h
  · rename_i hdue
    obtain ⟨hr, rfl⟩ := h.of_done
    cases hr
    exact ⟨[], by simp, .early (by simpa using hdue)⟩
  rename_i hdue
  have hdue : m.isDue now = true := by simpa using hdue
  obtain ⟨info, w₁, hinfo, h⟩ := h.of_call
  have hhistory := hinfo.history hρ
  cases info with
  | error e =>
    obtain ⟨hr, rfl⟩ := h.of_done
    cases hr
    exact ⟨_, hhistory, .untold hdue e⟩
  | ok text =>
    simp only [bind_done, bind_eq] at h
    split at h
    · rename_i hpercent
      obtain ⟨hr, rfl⟩ := h.of_done
      cases hr
      exact ⟨_, hhistory, .unknown hdue text hpercent⟩
    rename_i used hpercent
    split at h
    · rename_i hmost
      obtain ⟨hr, rfl⟩ := h.of_done
      cases hr
      exact ⟨_, hhistory, .low hdue text used hpercent hmost⟩
    rename_i hover
    obtain ⟨answer, w₂, hclear, h⟩ := h.of_call
    have hhistory₂ := hclear.history hρ
    rw [hhistory, List.append_assoc] at hhistory₂
    cases answer with
    | ok told =>
      obtain ⟨hr, rfl⟩ := h.of_done
      cases hr
      exact ⟨_, hhistory₂, .full hdue text used hpercent hover (.ok told)⟩
    | error e =>
      obtain ⟨hr, rfl⟩ := h.of_done
      cases hr
      exact ⟨_, hhistory₂, .full hdue text used hpercent hover (.error e)⟩

/-- A check of which a request has failed has not cleared the log; only a terminal failure ends it
with a failure if it is the clearing that fails. -/
theorem UsageMonitor.Checked.of_failed {m m' : UsageMonitor} {now : Nat} {evs : List Event}
    {r : Except SourceError Bool} (h : m.Checked now evs r m') {e : SourceError}
    (hfailed : ⟨.ask (.ipmi .logInfo), .error e⟩ ∈ evs ∨ ⟨.ask (.ipmi .logClear), .error e⟩ ∈ evs) :
    r = .error e ∨ r = .ok false ∧ e.isTerminal = false := by
  cases h with
  | full due text used percent above answer =>
    cases answer with
    | ok told => simp at hfailed
    | error e' =>
      obtain rfl : e = e' := by simpa using hfailed
      cases hterminal : e.isTerminal with
      | true => exact .inl (by simp [hterminal])
      | false => exact .inr ⟨by simp [hterminal], rfl⟩
  | untold due e' =>
    obtain rfl : e = e' := by simpa using hfailed
    exact .inl rfl
  | _ => simp at hfailed

/-! ## Usages that are no numbers -/

namespace LogUsage

/-- The controller reports the word for a value that is no number, in any letter case, with or without
a sign and beside percent signs. -/
def ReportsNaN (info : Dict String) : Prop :=
  ∃ text, info.get? "Percent Used" = some text ∧
    lower (unsigned (trim (text.toList.filter (· ≠ '%')))) = "nan".toList

instance (info : Dict String) : Decidable (ReportsNaN info) :=
  match h : info.get? "Percent Used" with
  | none => .isFalse (by rintro ⟨text, htext, -⟩; rw [h] at htext; cases htext)
  | some text =>
    decidable_of_iff (lower (unsigned (trim (text.toList.filter (· ≠ '%')))) = "nan".toList)
      ⟨fun hword => ⟨text, h, hword⟩, by
        rintro ⟨text', htext, hword⟩
        rw [h] at htext
        cases htext
        exact hword⟩

theorem isNaN_estimate {info : Dict String} {entrySize : UInt64} {e : Estimate}
    (h : estimate? info entrySize = some e) : e.percent.isNaN = false := by
  unfold estimate? at h
  obtain ⟨entries, -, h⟩ := Option.bind_eq_some_iff.1 h
  obtain ⟨free, -, h⟩ := Option.bind_eq_some_iff.1 h
  dsimp only at h
  split at h
  · cases h
  rename_i htotal
  cases h
  refine isNaN_percentage _ ?_
  intro hzero
  have hle : (Estimate.make entries free entrySize.toNat).total ≤ limit := Nat.min_le_right _ _
  have hlimit : limit = 2 ^ 64 - 1 := rfl
  have hnat := congrArg UInt64.toNat hzero
  rw [Nat.toUInt64, UInt64.toNat_ofNat', Nat.mod_eq_of_lt (by omega)] at hnat
  exact htotal hnat

/-- The usage is no number exactly if the controller reports the word for that. -/
theorem isNaN_percentUsed? {info : Dict String} {entrySize : UInt64} {used : Float}
    (h : percentUsed? info entrySize = some used) : used.isNaN = true ↔ ReportsNaN info := by
  unfold percentUsed? at h
  cases hreported : reported? info with
  | some value =>
    rw [hreported] at h
    cases h
    obtain ⟨text, htext, hparse⟩ := Option.bind_eq_some_iff.1 hreported
    rw [isNaN_parseFloat? hparse]
    constructor
    · exact fun hword => ⟨text, htext, hword⟩
    · rintro ⟨text', htext', hword⟩
      rw [htext] at htext'
      cases htext'
      exact hword
  | none =>
    rw [hreported] at h
    change (estimate? info entrySize).map Estimate.percent = some used at h
    obtain ⟨e, he, rfl⟩ := Option.map_eq_some_iff.1 h
    refine iff_of_false (by rw [isNaN_estimate he]; exact Bool.false_ne_true) ?_
    rintro ⟨text, htext, hword⟩
    obtain ⟨value, hvalue⟩ := parseFloat?_of_nan hword
    rw [reported?, htext, Option.bind_some, hvalue] at hreported
    cases hreported

end LogUsage

theorem UsageMonitor.isNaN_threshold (config : LogConfig) :
    (UsageMonitor.ofConfig config).threshold.isNaN = false := isNaN_toFloat _

/-- A usage is not at most a configured threshold if it is above it or the controller reports no
number. -/
theorem LogUsage.not_le_threshold_iff {info : Dict String} {entrySize : UInt64} {used : Float}
    (h : percentUsed? info entrySize = some used) (config : LogConfig) :
    ¬ used ≤ (UsageMonitor.ofConfig config).threshold ↔
      (UsageMonitor.ofConfig config).threshold < used ∨ ReportsNaN info := by
  rw [not_le_iff, isNaN_percentUsed? h, UsageMonitor.isNaN_threshold]
  simp

/-! ## When the log is cleared -/

/-- A check under a configured threshold asks for the clearing of the log exactly if it is due, the
controller tells the usage, and that is above the threshold or no number. -/
theorem check_clears_iff (hρ : ρ.Orderly) {m m' : UsageMonitor} {config : LogConfig}
    (hm : m.threshold = (UsageMonitor.ofConfig config).threshold) {now : Nat}
    {r : Except SourceError Bool} (h : Runs ρ.Step (acts (m.check now)) w (some (r, m')) v)
    {evs : List Event} (hevs : v.history = w.history ++ evs) :
    (∃ ev ∈ evs, ev.asksClear = true) ↔
      m.isDue now = true ∧ ∃ text used, ⟨.ask (.ipmi .logInfo), .ok text⟩ ∈ evs ∧
        LogUsage.percentUsed? (Ipmi.parseInfo text) m.entrySize = some used ∧
        (m.threshold < used ∨ LogUsage.ReportsNaN (Ipmi.parseInfo text)) := by
  obtain ⟨evs', hevs', hchecked⟩ := runs_check hρ h
  obtain rfl : evs = evs' := List.append_cancel_left (hevs.symm.trans hevs')
  rw [hm]
  cases hchecked with
  | early hdue => simp [hdue]
  | untold hdue e => simp [Event.asksClear]
  | unknown hdue text hpercent =>
    refine iff_of_false (by simp [Event.asksClear]) ?_
    rintro ⟨-, text', used, hmem, hused, -⟩
    obtain rfl : text' = text := by simpa using hmem
    rw [hpercent] at hused
    cases hused
  | low hdue text used hpercent hmost =>
    refine iff_of_false (by simp [Event.asksClear]) ?_
    rintro ⟨-, text', used', hmem, hused, hover⟩
    obtain rfl : text' = text := by simpa using hmem
    rw [hpercent] at hused
    cases hused
    rw [hm] at hmost
    exact (LogUsage.not_le_threshold_iff hpercent config).2 hover hmost
  | full hdue text used hpercent hover answer =>
    rw [hm] at hover
    refine iff_of_true ⟨_, List.mem_cons_of_mem _ List.mem_cons_self, rfl⟩ ⟨hdue, text, used, ?_⟩
    exact ⟨List.mem_cons_self, hpercent, (LogUsage.not_le_threshold_iff hpercent config).1 hover⟩

namespace Trial

def monitor : UsageMonitor := .ofConfig config

def check (usage : String) : Option (Except SourceError Bool × UsageMonitor) × World :=
  (acts (monitor.check 0)).runFor (replies usage "" (.ok "")).handle 10 (fresh "").world

theorem runs_check (usage : String) : Runs Rules.still.Step (acts (monitor.check 0)) (fresh "").world
    (check usage).1 (check usage).2 := Replies.runs (Replies.obey_still _) 10 _ _

end Trial

theorem check_clears_reported : ∃ text used,
    ⟨.ask (.ipmi .logInfo), .ok text⟩ ∈ (Trial.check "95%").2.history ∧
      LogUsage.percentUsed? (Ipmi.parseInfo text) 16 = some used ∧
      (Trial.monitor.threshold < used ∨ LogUsage.ReportsNaN (Ipmi.parseInfo text)) := by
  have hrun := Trial.runs_check "95%"
  obtain ⟨⟨r, m⟩, hr⟩ := Option.isSome_iff_exists.1
    (show (Trial.check "95%").1.isSome = true by decide +kernel)
  rw [hr] at hrun
  have hthreshold : Trial.monitor.threshold = (UsageMonitor.ofConfig Trial.config).threshold := rfl
  have hevs : (Trial.check "95%").2.history =
      (Trial.fresh "").world.history ++ (Trial.check "95%").2.history := rfl
  exact ((check_clears_iff Rules.still_still.orderly hthreshold hrun hevs).1 (by decide +kernel)).2

/-- A check clears the log though the controller reports a usage that no threshold is below. -/
theorem nan_clears_log : ∃ r v,
    Runs Rules.still.Step (acts (Trial.monitor.check 0)) (Trial.fresh "").world (some r) v ∧
      (∃ ev ∈ v.history, ev.asksClear = true) ∧
      ∀ text used, ⟨.ask (.ipmi .logInfo), .ok text⟩ ∈ v.history →
        LogUsage.percentUsed? (Ipmi.parseInfo text) 16 = some used →
        ¬ Trial.monitor.threshold < used := by
  have hrun := Trial.runs_check "nan%"
  obtain ⟨r, hr⟩ := Option.isSome_iff_exists.1
    (show (Trial.check "nan%").1.isSome = true by decide +kernel)
  rw [hr] at hrun
  refine ⟨r, _, hrun, by decide +kernel, ?_⟩
  intro text used hmem hused
  have hhistory : (Trial.check "nan%").2.history =
      [⟨.ask (.ipmi .logInfo), .ok ("Percent Used : " ++ "nan%" ++ "\n")⟩,
        ⟨.ask (.ipmi .logClear), .ok ""⟩] := by rfl
  rw [hhistory] at hmem
  obtain rfl : text = "Percent Used : " ++ "nan%" ++ "\n" := by simpa using hmem
  have hword : LogUsage.ReportsNaN (Ipmi.parseInfo ("Percent Used : " ++ "nan%" ++ "\n")) := by
    decide +kernel
  exact not_lt_of_isNaN _ ((LogUsage.isNaN_percentUsed? hused).2 hword)

end HealthAgent
