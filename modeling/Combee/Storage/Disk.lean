import Mathlib.Tactic.Common

/-!
# Disk — the files of one SQLite database and an open connection to them

A database is a main file and a WAL. Committed writes go to the WAL; closing the connection moves
them to the main file. A file is reached by its path or by a connection that has it open, and the
two can come apart: a rename over the path gives the path a new file, while the connection keeps the
one it has. So files are numbered, the paths and the connection hold numbers, and the contents of a
file are the writes in it, in order.
-/

namespace Combee.Storage

open Function (update update_apply)

/-- The files of one database; `β` is what one committed write leaves behind. -/
structure Disk (β : Type) where
  mains : Nat → List β
  wals : Nat → List β
  /-- The file at the main path. -/
  main : Option Nat
  /-- The file at the WAL path. -/
  wal : Option Nat
  /-- The main file and the WAL that the connection has open. -/
  conn : Option (Nat × Nat)
  /-- The next unused file number. -/
  fresh : Nat

namespace Disk

variable {β : Type}

/-! ## Operations -/

def blank : Disk β :=
  ⟨fun _ => [], fun _ => [], none, none, none, 0⟩

def mainFile (d : Disk β) : List β :=
  (d.main.map d.mains).getD []

def walFile (d : Disk β) : List β :=
  (d.wal.map d.wals).getD []

/-- What a fresh connection would find: the files at the two paths. SQLite deletes a WAL that has no
main file. -/
def onDisk (d : Disk β) : List β :=
  match d.main with
  | some m => d.mains m ++ d.walFile
  | none => []

/-- What the next request sees: the files of the open connection, or else those at the paths. -/
def contents (d : Disk β) : List β :=
  match d.conn with
  | some (m, w) => d.mains m ++ d.wals w
  | none => d.onDisk

def ensureMain (d : Disk β) : Disk β :=
  match d.main with
  | some _ => d
  | none => { d with
      main := some d.fresh, mains := update d.mains d.fresh [], wal := none,
      fresh := d.fresh + 1 }

def ensureWal (d : Disk β) : Disk β :=
  match d.wal with
  | some _ => d
  | none => { d with
      wal := some d.fresh, wals := update d.wals d.fresh [], fresh := d.fresh + 1 }

/-- `with_conn` reuses an open connection and otherwise opens the files at the paths. -/
def openConn (d : Disk β) : Disk β :=
  match d.conn with
  | some _ => d
  | none =>
    let d := d.ensureMain.ensureWal
    { d with conn := some (d.main.getD 0, d.wal.getD 0) }

def commit (d : Disk β) (x : β) : Disk β :=
  match d.openConn.conn with
  | some (_, w) =>
    { d.openConn with wals := update d.openConn.wals w (d.openConn.wals w ++ [x]) }
  | none => d.openConn

/-- `close_database`: the WAL is moved to the main file and the connection goes. -/
def close (d : Disk β) : Disk β :=
  match d.conn with
  | some (m, w) => { d with
      mains := update d.mains m (d.mains m ++ d.wals w)
      wals := update d.wals w []
      conn := none }
  | none => d

/-- The process dies: committed writes are in the files already. -/
def crash (d : Disk β) : Disk β :=
  { d with conn := none }

def renameMain (d : Disk β) (c : List β) : Disk β :=
  { d with main := some d.fresh, mains := update d.mains d.fresh c, fresh := d.fresh + 1 }

def renameWal (d : Disk β) (c : List β) : Disk β :=
  { d with wal := some d.fresh, wals := update d.wals d.fresh c, fresh := d.fresh + 1 }

def removeMain (d : Disk β) : Disk β :=
  { d with main := none }

def removeWal (d : Disk β) : Disk β :=
  { d with wal := none }

section

variable (d : Disk β) (c : List β)

@[simp] lemma mainFile_renameMain : (d.renameMain c).mainFile = c := by
  simp [mainFile, renameMain]

@[simp] lemma main_renameMain : (d.renameMain c).main.map (d.renameMain c).mains = some c := by
  simp [renameMain]

@[simp] lemma walFile_renameMain : (d.renameMain c).walFile = d.walFile := rfl

@[simp] lemma mainFile_renameWal : (d.renameWal c).mainFile = d.mainFile := rfl

@[simp] lemma walFile_renameWal : (d.renameWal c).walFile = c := by
  simp [walFile, renameWal]

@[simp] lemma mainFile_removeWal : d.removeWal.mainFile = d.mainFile := rfl

@[simp] lemma walFile_removeWal : d.removeWal.walFile = [] := rfl

end

lemma removeMain_of_none {d : Disk β} (h : d.main = none) : d.removeMain = d := by
  cases d
  cases h
  rfl

lemma removeWal_of_none {d : Disk β} (h : d.wal = none) : d.removeWal = d := by
  cases d
  cases h
  rfl

lemma onDisk_of_main {d : Disk β} {c : List β} (h : d.main.map d.mains = some c) :
    d.onDisk = c ++ d.walFile := by
  obtain ⟨m, hm, rfl⟩ := Option.map_eq_some_iff.mp h
  simp [onDisk, hm]

lemma mainFile_subset_onDisk (d : Disk β) : d.mainFile ⊆ d.onDisk := by
  cases hm : d.main <;> simp [mainFile, onDisk, hm]

/-! ## Connections that have the files at the paths open -/

/-- The connection, if there is one, has the files at the two paths open. -/
def Attached (d : Disk β) : Prop :=
  ∀ m w, d.conn = some (m, w) → d.main = some m ∧ d.wal = some w

lemma attached_of_closed {d : Disk β} (h : d.conn = none) : d.Attached := by
  intro m w hc
  rw [h] at hc
  cases hc

lemma attached_blank : (blank : Disk β).Attached :=
  attached_of_closed rfl

lemma contents_of_closed {d : Disk β} (h : d.conn = none) : d.contents = d.onDisk := by
  simp [contents, h]

section

variable {d : Disk β} {c : List β} (hconn : d.conn = none) (hmain : d.main.map d.mains = some c)
include hconn hmain

lemma contents_of_main : d.contents = c ++ d.walFile := by
  rw [contents_of_closed hconn, onDisk_of_main hmain]

lemma contents_renameWal (tail : List β) : (d.renameWal tail).contents = c ++ tail := by
  rw [contents_of_main (d := d.renameWal tail) hconn hmain, walFile_renameWal]

lemma contents_removeWal : d.removeWal.contents = c := by
  rw [contents_of_main (d := d.removeWal) hconn hmain, walFile_removeWal, List.append_nil]

end

lemma Attached.contents_eq {d : Disk β} (h : d.Attached) : d.contents = d.onDisk := by
  cases hc : d.conn with
  | none => exact contents_of_closed hc
  | some mw =>
    obtain ⟨m, w⟩ := mw
    obtain ⟨hm, hw⟩ := h m w hc
    simp [contents, hc, onDisk, walFile, hm, hw]

lemma openConn_of_closed {d : Disk β} (h : d.conn = none) :
    ∃ m w, d.openConn.main = some m ∧ d.openConn.wal = some w ∧ d.openConn.conn = some (m, w) ∧
      d.openConn.mains m ++ d.openConn.wals w = d.onDisk := by
  cases hm : d.main <;> cases hw : d.wal <;>
    simp [openConn, h, ensureMain, ensureWal, onDisk, walFile, hm, hw]

lemma openConn_of_open {d : Disk β} {m w : Nat} (h : d.conn = some (m, w)) : d.openConn = d := by
  simp [openConn, h]

lemma Attached.openConn {d : Disk β} (h : d.Attached) : d.openConn.Attached := by
  cases hc : d.conn with
  | none =>
    obtain ⟨m, w, hm, hw, hconn, _⟩ := openConn_of_closed hc
    intro m' w' hc'
    obtain ⟨rfl, rfl⟩ : m = m' ∧ w = w' := by simpa using hconn.symm.trans hc'
    exact ⟨hm, hw⟩
  | some mw => rwa [openConn_of_open hc]

variable (d : Disk β)

lemma contents_openConn : d.openConn.contents = d.contents := by
  cases hc : d.conn with
  | none =>
    obtain ⟨m, w, _, _, hconn, hfiles⟩ := openConn_of_closed hc
    simp [contents, hconn, hfiles, hc]
  | some mw => rw [openConn_of_open hc]

lemma conn_openConn : ∃ m w, d.openConn.conn = some (m, w) := by
  cases hc : d.conn with
  | none =>
    obtain ⟨m, w, _, _, hconn, _⟩ := openConn_of_closed hc
    exact ⟨m, w, hconn⟩
  | some mw => exact ⟨mw.1, mw.2, by rw [openConn_of_open hc, hc]⟩

/-- A write goes through the connection that is open. -/
lemma conn_commit_of_open {d : Disk β} (h : d.conn ≠ none) (x : β) :
    (d.commit x).conn = d.conn := by
  cases hc : d.conn with
  | none => exact absurd hc h
  | some mw => simp [commit, openConn_of_open hc, hc]

lemma contents_commit (x : β) : (d.commit x).contents = d.contents ++ [x] := by
  obtain ⟨m, w, hconn⟩ := conn_openConn d
  rw [← contents_openConn d]
  simp [commit, hconn, contents]

lemma Attached.commit {d : Disk β} (h : d.Attached) (x : β) : (d.commit x).Attached := by
  obtain ⟨m, w, hconn⟩ := conn_openConn d
  have ho := h.openConn
  intro m' w' hc
  simp only [Disk.commit, hconn] at hc ⊢
  exact ho m' w' (hconn.trans hc)

lemma Attached.contents_close {d : Disk β} (h : d.Attached) : d.close.contents = d.contents := by
  cases hc : d.conn with
  | none => simp [close, hc]
  | some mw =>
    obtain ⟨m, w⟩ := mw
    obtain ⟨hm, hw⟩ := h m w hc
    simp [close, hc, contents, onDisk, walFile, hm, hw]

lemma close_conn : d.close.conn = none := by
  cases hc : d.conn with
  | none | some => simp [close, hc]

lemma conn_shut (checkpoint : Bool) : (if checkpoint then d.close else d.crash).conn = none := by
  cases checkpoint with
  | true => exact d.close_conn
  | false => rfl

lemma main_shut (checkpoint : Bool) :
    (if checkpoint then d.close else d.crash).main = d.main := by
  cases checkpoint with
  | true =>
    unfold close
    cases d.conn <;> rfl
  | false => rfl

lemma contents_of_no_main {d : Disk β} (hconn : d.conn = none) (h : d.main = none) :
    d.contents = [] := by
  simp [contents_of_closed hconn, onDisk, h]

lemma Attached.contents_crash {d : Disk β} (h : d.Attached) : d.crash.contents = d.contents := by
  rw [h.contents_eq]
  rfl

/-! ## Operations that lose nothing -/

/-- The connection of `d'` is attached, and everything that was read in `d` is read in `d'`. -/
structure Keeps (d d' : Disk β) : Prop where
  attached : d'.Attached
  subset : d.contents ⊆ d'.contents

namespace Attached

variable {d : Disk β} (h : d.Attached)
include h

lemma keeps_self : Keeps d d :=
  ⟨h, List.Subset.refl _⟩

lemma keeps_commit (x : β) : Keeps d (d.commit x) :=
  ⟨h.commit x, by rw [contents_commit]; exact List.subset_append_left _ _⟩

lemma keeps_openConn : Keeps d d.openConn :=
  ⟨h.openConn, by rw [contents_openConn]; exact List.Subset.refl _⟩

lemma keeps_close : Keeps d d.close :=
  ⟨attached_of_closed d.close_conn, by rw [h.contents_close]; exact List.Subset.refl _⟩

lemma keeps_crash : Keeps d d.crash :=
  ⟨attached_of_closed rfl, by rw [h.contents_crash]; exact List.Subset.refl _⟩

end Attached

/-! ## Databases without data -/

/-- Nothing is read, and there is nothing in the files at the paths. -/
structure Empty (d : Disk β) : Prop where
  contents : d.contents = []
  files : d.mainFile = [] ∧ d.walFile = []

lemma onDisk_eq_nil {d : Disk β} (h : d.mainFile = [] ∧ d.walFile = []) : d.onDisk = [] := by
  cases hm : d.main with
  | none => simp [onDisk, hm]
  | some m =>
    rw [onDisk_of_main (c := []), h.2, List.nil_append]
    simpa [mainFile, hm] using h.1

lemma empty_of_closed {d : Disk β} (hconn : d.conn = none)
    (h : d.mainFile = [] ∧ d.walFile = []) : d.Empty :=
  ⟨by rw [contents_of_closed hconn, onDisk_eq_nil h], h⟩

lemma empty_of_gone {d : Disk β} (hconn : d.conn = none) (hmain : d.main = none)
    (hwal : d.wal = none) : d.Empty :=
  empty_of_closed hconn (by simp [mainFile, walFile, hmain, hwal])

namespace Empty

variable {d : Disk β} (h : d.Empty)
include h

lemma conn {m w : Nat} (hc : d.conn = some (m, w)) : d.mains m = [] ∧ d.wals w = [] := by
  have hcontents := h.contents
  rw [Disk.contents, hc] at hcontents
  exact List.append_eq_nil_iff.mp hcontents

lemma crash : d.crash.Empty :=
  empty_of_closed rfl h.files

lemma openConn : d.openConn.Empty := by
  refine ⟨by rw [contents_openConn]; exact h.contents, ?_⟩
  cases hc : d.conn with
  | none =>
    obtain ⟨m, w, hm, hw, _, hfiles⟩ := openConn_of_closed hc
    rw [onDisk_eq_nil h.files] at hfiles
    simpa [mainFile, walFile, hm, hw] using hfiles
  | some mw =>
    rw [openConn_of_open hc]
    exact h.files

lemma close : d.close.Empty := by
  obtain ⟨hmain, hwal⟩ := h.files
  refine empty_of_closed d.close_conn ?_
  cases hc : d.conn with
  | none => simpa [Disk.close, hc] using h.files
  | some mw =>
    obtain ⟨m, w⟩ := mw
    obtain ⟨hm, hw⟩ := h.conn hc
    simp only [mainFile, walFile] at hmain hwal
    simp only [mainFile, walFile, Disk.close, hc, hm, hw, List.append_nil]
    -- the paths may lead to the files just closed or to others: both are empty
    cases hp : d.main <;> cases hq : d.wal <;>
      simp_all [update_apply]

lemma replace {d' : Disk β} (hconn : d'.conn = d.conn)
    (hfiles : d'.mainFile = [] ∧ d'.walFile = [])
    (hkeep : ∀ m w, d.mains m = [] → d.wals w = [] → d'.mains m = [] ∧ d'.wals w = []) :
    d'.Empty := by
  cases hc : d.conn with
  | none => exact empty_of_closed (hconn.trans hc) hfiles
  | some mw =>
    obtain ⟨hm, hw⟩ := h.conn hc
    obtain ⟨hm', hw'⟩ := hkeep _ _ hm hw
    exact ⟨by simp [Disk.contents, hconn.trans hc, hm', hw'], hfiles⟩

lemma renameMain : (d.renameMain []).Empty := by
  refine h.replace rfl (by simp [h.files.2]) fun m w hm hw => ⟨?_, hw⟩
  simp [Disk.renameMain, update_apply, hm]

lemma renameWal : (d.renameWal []).Empty := by
  refine h.replace rfl (by simp [h.files.1]) fun m w hm hw => ⟨hm, ?_⟩
  simp [Disk.renameWal, update_apply, hw]

lemma removeWal : d.removeWal.Empty :=
  h.replace rfl (by simp [h.files.1]) fun m w hm hw => ⟨hm, hw⟩

end Empty

end Disk

end Combee.Storage
