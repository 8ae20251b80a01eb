/-
  Tfplenum.Service.CuratorRollover

  Which aliases are rolled over before an index is closed.  `_rollover_and_close_action`
  looks at the first alias of the index and at its `is_write_index` only; Elasticsearch
  writes through every alias that has the flag, and through one without it when the
  index is all it has.
-/

import Tfplenum.Service.CuratorService
import Tfplenum.Lib.Table
import Tfplenum.Lib.Trace

namespace Tfplenum

namespace Curator

open Lib

variable {σ : Type}

/-! ## Aliases -/

/-- The members of each alias, with their `is_write_index` if they have one. -/
abbrev AliasTable : Type := Table String (Table String (Option Bool))

/-- The aliases of an index, as a request for the index shows them. -/
def aliasesOf (index : String) (t : AliasTable) : List (String × Option Bool) :=
  t.rows.filterMap fun r => (r.2.get? index).map fun flag => (r.1, flag)

/-- What is written to the alias goes to the index: it has the flag, or it is the sole
    member of the alias and has none. -/
def IsWriteIndex (t : AliasTable) (aliasName index : String) : Prop :=
  ∃ members, t.get? aliasName = some members ∧
    (members.get? index = some (some true) ∨ members.rows = [(index, none)])

/-- What answers the calls, with the alias table it keeps: a request for an index that
    does not raise shows the aliases of the index. -/
structure Elasticsearch (σ : Type) where
  aliasTable : σ → AliasTable
  env : CuratorEnv σ
  getAliases_ok : ∀ index s aliases, (env (.getAliases index) s).1 = .ok aliases →
    aliases = aliasesOf index (aliasTable s)

/-! ## Closing an index -/

/-- If the index is closed, all aliases that write to it have been rolled over by then. -/
def RolledOverFirst (es : Elasticsearch σ) (index : String) (s : σ) : Prop :=
  ∀ before after, (rolloverAndCloseAction index).trace es.env s = before ++ .close index :: after →
    ∀ aliasName, IsWriteIndex (es.aliasTable s) aliasName index →
      CuratorCall.rollover aliasName ∈ before

/-- The request for the index raises, or the one rollover does, or there is no other alias
    that writes to the index than the one that is rolled over. -/
def Guarded (es : Elasticsearch σ) (index : String) (s : σ) : Prop :=
  (∃ e, (es.env (.getAliases index) s).1 = .error e) ∨
  (∃ aliasName, aliasToRollover (aliasesOf index (es.aliasTable s)) = some aliasName ∧
    ∃ e, (es.env (.rollover aliasName) (es.env (.getAliases index) s).2).1 = .error e) ∨
  ∀ aliasName, IsWriteIndex (es.aliasTable s) aliasName index →
    aliasToRollover (aliasesOf index (es.aliasTable s)) = some aliasName

/-! ## Calls of a run -/

/-- What follows a call is reached if the call does not raise. -/
theorem trace_ask_bind {α : Type} (env : CuratorEnv σ) (c : CuratorCall)
    (f : c.Answer → ElasticProg α) (s : σ) :
    ((ask c).bind f).trace env s = c :: match (env c s).1 with
      | .ok a => (f a).trace env (env c s).2
      | .error _ => [] := by
  change c :: (((Program.ofExcept (env c s).1).bind f).trace env (env c s).2) = _
  rcases (env c s).1 with e | a <;> rfl

theorem trace_ask (env : CuratorEnv σ) (c : CuratorCall) (s : σ) : (ask c).trace env s = [c] := by
  change c :: ((Program.ofExcept (env c s).1).trace env (env c s).2) = _
  rcases (env c s).1 with e | a <;> rfl

variable {es : Elasticsearch σ} {index : String} {s : σ}

/-- The calls without an alias to roll over. -/
theorem trace_of_none {aliases : List (String × Option Bool)}
    (hget : (es.env (.getAliases index) s).1 = .ok aliases)
    (hnone : aliasToRollover aliases = none) :
    (rolloverAndCloseAction index).trace es.env s = [.getAliases index, .close index] := by
  rw [rolloverAndCloseAction, Program.bind_eq, trace_ask_bind, hget]
  dsimp only
  rw [hnone]
  exact congrArg _ (trace_ask es.env (.close index) _)

/-- The calls with an alias to roll over. -/
theorem trace_of_some {aliases : List (String × Option Bool)} {aliasName : String}
    (hget : (es.env (.getAliases index) s).1 = .ok aliases)
    (hsome : aliasToRollover aliases = some aliasName) :
    (rolloverAndCloseAction index).trace es.env s = .getAliases index :: .rollover aliasName ::
      match (es.env (.rollover aliasName) (es.env (.getAliases index) s).2).1 with
      | .ok _ => [.close index]
      | .error _ => [] := by
  rw [rolloverAndCloseAction, Program.bind_eq, trace_ask_bind, hget]
  dsimp only
  rw [hsome]
  dsimp only
  rw [Program.bind_eq, trace_ask_bind]
  rcases (es.env (.rollover aliasName) (es.env (.getAliases index) s).2).1 with e | u
  · rfl
  · exact congrArg (fun l => _ :: _ :: l) (trace_ask es.env (.close index) _)

/-- A request for the index that raises ends the run. -/
theorem trace_of_error {e : PyError} (hget : (es.env (.getAliases index) s).1 = .error e) :
    (rolloverAndCloseAction index).trace es.env s = [.getAliases index] := by
  rw [rolloverAndCloseAction, Program.bind_eq, trace_ask_bind, hget]

/-! ## When the aliases are rolled over -/

/-- What comes before the close, where it is reached. -/
theorem rolledOverFirst_of_trace (before : List CuratorCall) (hfresh : .close index ∉ before)
    (htrace : (rolloverAndCloseAction index).trace es.env s = before ++ [.close index]) :
    RolledOverFirst es index s ↔ ∀ aliasName, IsWriteIndex (es.aliasTable s) aliasName index →
      CuratorCall.rollover aliasName ∈ before := by
  constructor
  · intro h
    exact h before [] htrace
  · intro h before' after htrace'
    -- there is only one close
    have hbefore : before' = before := by
      rw [htrace] at htrace'
      rcases List.append_eq_append_iff.mp htrace' with ⟨c, hc, hclose⟩ | ⟨c, hc, hclose⟩
      · cases c with
        | nil => exact hc.trans (List.append_nil _)
        | cons a c => simp at hclose
      · cases c with
        | nil => exact (hc.trans (List.append_nil _)).symm
        | cons a c =>
            rw [List.cons_append, List.cons.injEq] at hclose
            refine absurd ?_ hfresh
            rw [hc, ← hclose.1]
            simp
    rw [hbefore]
    exact h

/-- Where the index is not closed, there is nothing to roll over. -/
theorem rolledOverFirst_of_not_closed
    (htrace : .close index ∉ (rolloverAndCloseAction index).trace es.env s) :
    RolledOverFirst es index s := by
  intro before after h
  rw [h] at htrace
  simp at htrace

/-- The aliases are rolled over first exactly where the first alias is the only one that
    writes to the index, and says so. -/
theorem rolledOverFirst_iff (es : Elasticsearch σ) (index : String) (s : σ) :
    RolledOverFirst es index s ↔ Guarded es index s := by
  rcases hget : (es.env (.getAliases index) s).1 with e | aliases
  · refine iff_of_true (rolledOverFirst_of_not_closed ?_) (.inl ⟨e, hget⟩)
    rw [trace_of_error hget]
    simp
  have hshown := es.getAliases_ok index s aliases hget
  rcases hfirst : aliasToRollover aliases with _ | aliasName
  · -- nothing is rolled over
    have htrace := trace_of_none hget hfirst
    rw [rolledOverFirst_of_trace [.getAliases index] (by simp) htrace, Guarded,
      ← hshown, hget, hfirst]
    simp
  -- a rollover that raises keeps the index open
  · have htrace := trace_of_some hget hfirst
    rcases hroll : (es.env (.rollover aliasName) (es.env (.getAliases index) s).2).1 with e | u
    · rw [hroll] at htrace
      refine iff_of_true (rolledOverFirst_of_not_closed ?_) (.inr (.inl ?_))
      · rw [htrace]
        simp
      · exact ⟨aliasName, hshown ▸ hfirst, e, hroll⟩
    · rw [hroll] at htrace
      rw [rolledOverFirst_of_trace [.getAliases index, .rollover aliasName] (by simp) htrace,
        Guarded, ← hshown, hget, hfirst]
      simp [hroll, eq_comm]

/-- Elasticsearch where no call raises, and the aliases stay as they are. -/
def willing (t : AliasTable) : Elasticsearch Unit where
  aliasTable _ := t
  env
    | .getAliases index, s => (.ok (aliasesOf index t), s)
    | .close _, s => (.ok true, s)
    | .delete _, s => (.ok true, s)
    | .loadRepoSettings, s => (.ok "tfplenum", s)
    | .snapshotName, s => (.ok "tfplenum_backup", s)
    | .createSnapshot _ _ _, s => (.ok true, s)
    | .pushAppContext, s => (.ok (), s)
    | .elasticWrapper, s => (.ok (), s)
    | .putSettings _ _ _, s => (.ok (), s)
    | .rollover _, s => (.ok (), s)
    | .forcemerge, s => (.ok (), s)
  getAliases_ok _ _ _ h := (Except.ok.inj h).symm

/-- Two aliases of one index, of which the second one is the one to write to. -/
def secondWrites : AliasTable :=
  (Table.empty.upsert "archive" (Table.empty.upsert "filebeat-000001" (some false))).upsert
    "filebeat" (Table.empty.upsert "filebeat-000001" (some true))

/-- The write index of the second alias is closed without a rollover. -/
theorem not_rolledOverFirst :
    ¬ ∀ (es : Elasticsearch Unit) (index : String) (s : Unit), RolledOverFirst es index s := by
  intro h
  have htrace : (rolloverAndCloseAction "filebeat-000001").trace (willing secondWrites).env () =
      [.getAliases "filebeat-000001"] ++ [.close "filebeat-000001"] := rfl
  have hwrite : IsWriteIndex secondWrites "filebeat" "filebeat-000001" :=
    ⟨Table.empty.upsert "filebeat-000001" (some true), rfl, .inl rfl⟩
  have hroll := h (willing secondWrites) "filebeat-000001" () _ [] htrace "filebeat" hwrite
  simp at hroll

end Curator

end Tfplenum
