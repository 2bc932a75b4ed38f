/-
  Daemon/ClientTable.lean --- `tapserver_add_client` and `remove_client`.

  Source: src/daemon/tapserver.c, lines 91-121.

  Both are one critical section's worth of memory accesses, so each is one
  function on what the mutex protects.  A failed `assert` and an access outside
  `clienttab` are faults.  On a well-formed table neither can fault
  (`addClient_ok`, `removeClient_ok`), and what they do to the entries in use is
  an append and an `eraseIdx`.
-/
import TapCfg.Daemon.Types
import Mathlib.Data.List.Nodup

set_option autoImplicit false

namespace TapCfg.Daemon

open TapCfg.Foundation

/-- An array access that may leave the array. -/
def inBounds {α : Type} : Option α → Except Fault α
  | some a => .ok a
  | none => .error .bounds

@[simp] theorem inBounds_some {α : Type} (a : α) : inBounds (some a) = .ok a := rfl

/-- `tapserver_add_client`: 0, or -1 when the table is full. -/
def tapserverAddClient (w : World) (fd : Fd) : Except Fault (Int × World) :=
  if w.table.maxClients ≤ w.table.clients then .ok (-1, w)
  else do
    let tab ← inBounds (store w.table.clienttab w.table.clients.toNat fd)
    .ok (0, { table := { w.table with clienttab := tab, clients := w.table.clients + 1 }
              hist := w.hist ++ [.added fd] })

/-- `remove_client` -/
def removeClient (w : World) (idx : Nat) : Except Fault World :=
  if (idx : Int) < w.table.clients then do
    let tab ←
      if (idx : Int) < w.table.clients - 1 then
        inBounds (memmove w.table.clienttab idx (idx + 1) (w.table.clients - idx - 1).toNat)
      else .ok w.table.clienttab
    .ok { table := { w.table with clienttab := tab, clients := w.table.clients - 1 }
          hist := w.hist ++ (w.table.clienttab[idx]?.map Event.removed).toList }
  else .error .assertion

/-- A full table refuses the client and stays as it is. -/
theorem addClient_full {w : World} {fd : Fd} (h : w.table.maxClients ≤ w.table.clients) :
    tapserverAddClient w fd = .ok (-1, w) := if_pos h

/-- A client that fits is appended. -/
theorem addClient_ok {w : World} (fd : Fd) (hw : w.table.Wf)
    (h : w.table.clients < w.table.maxClients) :
    ∃ w', tapserverAddClient w fd = .ok (0, w') ∧ w'.table.Wf ∧ w'.live = w.live ++ [fd] ∧
      w'.hist = w.hist ++ [.added fd] ∧ w'.table.maxClients = w.table.maxClients := by
  have h1 := hw.nonneg
  have h3 := hw.fits
  have hlt : w.table.clients.toNat < w.table.clienttab.length := by omega
  refine ⟨{ table := { w.table with
                clienttab := w.table.clienttab.set w.table.clients.toNat fd
                clients := w.table.clients + 1 }
            hist := w.hist ++ [.added fd] }, ?_, ?_, ?_, rfl, rfl⟩
  · rw [tapserverAddClient, if_neg (by omega), store_eq_some hlt]
    rfl
  · refine ⟨by simp only; omega, by simp only; omega, ?_⟩
    simp only [List.length_set]
    exact h3
  · have hn : (w.table.clients + 1).toNat = w.table.clients.toNat + 1 := by omega
    simp only [ClientTable.live, hn]
    exact take_succ_set _ _ _ hlt

/-- An index in use is erased from the entries in use. -/
theorem removeClient_ok {w : World} {idx : Nat} {fd : Fd} (hw : w.table.Wf)
    (h : w.live[idx]? = some fd) :
    ∃ w', removeClient w idx = .ok w' ∧ w'.table.Wf ∧ w'.live = w.live.eraseIdx idx ∧
      w'.hist = w.hist ++ [.removed fd] ∧ w'.table.maxClients = w.table.maxClients := by
  have h1 := hw.nonneg
  have h2 := hw.le_max
  have h3 := hw.fits
  have hidx : idx < w.live.length := (List.getElem?_eq_some_iff.mp h).1
  have hlt : (idx : Int) < w.table.clients := hw.lt_clients.mpr hidx
  have hfd : w.table.clienttab[idx]? = some fd := (hw.getElem? hidx).trans h
  have hn : (w.table.clients - 1).toNat = w.table.clients.toNat - 1 := by omega
  by_cases hlast : (idx : Int) < w.table.clients - 1
  · obtain ⟨tab, hmove, hlen, htake⟩ :=
      memmove_down (show idx < w.table.clients.toNat by omega)
        (show w.table.clients.toNat ≤ w.table.clienttab.length by omega)
    have hcount : (w.table.clients - idx - 1).toNat = w.table.clients.toNat - idx - 1 := by omega
    refine ⟨{ table := { w.table with clienttab := tab, clients := w.table.clients - 1 }
              hist := w.hist ++ [.removed fd] }, ?_, ⟨?_, ?_, ?_⟩, ?_, rfl, rfl⟩
    · rw [removeClient, if_pos hlt, if_pos hlast, hcount, hmove, hfd]
      rfl
    · simp only; omega
    · simp only; omega
    · simp only [hlen]; exact h3
    · simp only [ClientTable.live, hn, htake]
  · have hpred : idx = w.table.clients.toNat - 1 := by omega
    refine ⟨{ table := { w.table with clients := w.table.clients - 1 }
              hist := w.hist ++ [.removed fd] }, ?_, ⟨?_, ?_, ?_⟩, ?_, rfl, rfl⟩
    · rw [removeClient, if_pos hlt, if_neg hlast, hfd]
      rfl
    · simp only; omega
    · simp only; omega
    · exact h3
    · simp only [ClientTable.live, hn, hpred]
      exact take_pred_eq_eraseIdx (by omega) (by omega)

/-- What a removal that did not fault has done. -/
theorem removeClient_spec {w w' : World} {idx : Nat} {fd : Fd} (hw : w.table.Wf)
    (h : w.live[idx]? = some fd) (hr : removeClient w idx = .ok w') :
    w'.table.Wf ∧ w'.live = w.live.eraseIdx idx ∧ w'.hist = w.hist ++ [.removed fd] ∧
      w'.table.maxClients = w.table.maxClients := by
  obtain ⟨v, hv, hspec⟩ := removeClient_ok hw h
  rw [hr] at hv
  cases hv
  exact hspec

/-- What an insertion that did not fault has done. -/
theorem addClient_spec {w w' : World} {fd : Fd} {ret : Int} (hw : w.table.Wf)
    (hr : tapserverAddClient w fd = .ok (ret, w')) :
    (ret = -1 ∧ w' = w ∧ w.table.maxClients ≤ w.table.clients) ∨
      (ret = 0 ∧ w.table.clients < w.table.maxClients ∧ w'.table.Wf ∧
        w'.live = w.live ++ [fd] ∧ w'.hist = w.hist ++ [.added fd] ∧
        w'.table.maxClients = w.table.maxClients) := by
  by_cases h : w.table.maxClients ≤ w.table.clients
  · rw [addClient_full h] at hr
    cases hr
    exact .inl ⟨rfl, rfl, h⟩
  · obtain ⟨v, hv, hspec⟩ := addClient_ok fd hw (by omega)
    rw [hr] at hv
    cases hv
    exact .inr ⟨rfl, by omega, hspec⟩

/-! ## The entries from an index on -/

theorem drop_of_getElem? {l : List Fd} {i : Nat} {fd : Fd} (h : l[i]? = some fd) :
    l.drop i = fd :: l.drop (i + 1) := by
  obtain ⟨hlt, hget⟩ := List.getElem?_eq_some_iff.mp h
  rw [List.drop_eq_getElem_cons hlt, hget]

theorem not_mem_drop_succ {l : List Fd} (hl : l.Nodup) {i : Nat} {fd : Fd}
    (h : l[i]? = some fd) : fd ∉ l.drop (i + 1) := by
  have hnodup : (fd :: l.drop (i + 1)).Nodup := by
    rw [← drop_of_getElem? h]
    exact hl.sublist (List.drop_sublist _ _)
  exact (List.nodup_cons.mp hnodup).1

/-- What stands from an index on, after a removal, stood from that index on. -/
theorem mem_drop_of_eraseIdx {l : List Fd} {i j : Nat} {fd : Fd}
    (h : fd ∈ (l.eraseIdx j).drop i) : fd ∈ l.drop i := by
  obtain ⟨k, hk⟩ := List.mem_iff_getElem?.mp h
  rw [List.getElem?_drop, List.getElem?_eraseIdx] at hk
  rw [List.mem_iff_getElem?]
  split at hk
  · exact ⟨k, by rw [List.getElem?_drop, hk]⟩
  · exact ⟨k + 1, by rw [List.getElem?_drop, ← hk, Nat.add_assoc]⟩

/-! ## The table and the history -/

/-- The table of a world is well formed, without repetition, and is the one the
history tells. -/
structure World.Wf (w : World) : Prop where
  table : w.table.Wf
  nodup : w.live.Nodup
  told : tableOf w.hist = w.live

theorem World.Wf.live_length {w : World} (h : w.Wf) : (w.live.length : Int) = w.table.clients :=
  h.table.live_length

/-- Events that leave the table alone keep the world well formed. -/
theorem World.Wf.log {w : World} (h : w.Wf) {τ : List Event}
    (hτ : ∀ e ∈ τ, e.onTable = false) : (w.log τ).Wf :=
  ⟨h.table, h.nodup, by rw [World.log_hist, tableOf_append _ hτ]; exact h.told⟩

/-- A removal keeps the world well formed. -/
theorem World.Wf.remove {w w' : World} (h : w.Wf) {idx : Nat} {fd : Fd}
    (hi : w.live[idx]? = some fd) (hr : removeClient w idx = .ok w') :
    w'.Wf ∧ w'.live = w.live.erase fd := by
  obtain ⟨htab, hlive, hhist, -⟩ := removeClient_spec h.table hi hr
  have herase : w.live.eraseIdx idx = w.live.erase fd := by
    obtain ⟨hlt, hget⟩ := List.getElem?_eq_some_iff.mp hi
    rw [← hget, h.nodup.erase_getElem idx hlt]
  refine ⟨⟨htab, ?_, ?_⟩, by rw [hlive, herase]⟩
  · rw [hlive]
    exact h.nodup.sublist (List.eraseIdx_sublist _ _)
  · rw [hhist, tableOf_removed, h.told, hlive, herase]

/-- An insertion of a descriptor that is not in the table keeps the world well
formed. -/
theorem World.Wf.add {w w' : World} (h : w.Wf) {fd : Fd} {ret : Int} (hfd : fd ∉ w.live)
    (hr : tapserverAddClient w fd = .ok (ret, w')) : w'.Wf := by
  rcases addClient_spec h.table hr with ⟨-, rfl, -⟩ | ⟨-, -, htab, hlive, hhist, -⟩
  · exact h
  · refine ⟨htab, ?_, by rw [hhist, tableOf_added, h.told, hlive]⟩
    rw [hlive]
    exact List.nodup_append.mpr ⟨h.nodup, List.nodup_singleton fd, by
      intro a ha b hb
      rw [List.mem_singleton.mp hb]
      rintro rfl
      exact hfd ha⟩

end TapCfg.Daemon
