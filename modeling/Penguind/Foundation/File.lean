import Mathlib.Data.List.Infix

/-!
# Reading a file that changes

While a program reads a file piece by piece, others may rewrite it in place, let the path name
another file, or remove it. The file that was opened stays open.
-/

namespace Penguind.Foundation

structure Disk (Byte : Type*) where
  name : Option Nat
  content : Nat → List Byte

inductive Edit (Byte : Type*)
  | write (file : Nat) (content : List Byte)
  | rename (file : Nat)
  | remove

def Disk.edit {Byte : Type*} (disk : Disk Byte) : Edit Byte → Disk Byte
  | .write file content => { disk with content := Function.update disk.content file content }
  | .rename file => { disk with name := some file }
  | .remove => { disk with name := none }

inductive ReadResult (Byte : Type*)
  | bytes (data : List Byte)
  | notFound
  | failed (message : String)

def ReadResult.data? {Byte : Type*} : ReadResult Byte → Option (List Byte)
  | .bytes data => some data
  | .notFound | .failed _ => none

inductive Reading (Byte : Type*)
  | opening
  | reading (file : Nat) (got : List Byte)

inductive ReadLabel
  | openFile
  | piece (n : Nat)
  | atEnd
  | fail (message : String)

def Reading.step {Byte : Type*} (disk : Disk Byte) :
    Reading Byte → ReadLabel → Option (Reading Byte ⊕ ReadResult Byte)
  | .opening, .openFile =>
    match disk.name with
    | none => some (.inr .notFound)
    | some file => some (.inl (.reading file []))
  | .reading file got, .piece n =>
    if 0 < n ∧ got.length + n ≤ (disk.content file).length then
      some (.inl (.reading file (got ++ ((disk.content file).drop got.length).take n)))
    else none
  | .reading file got, .atEnd =>
    if (disk.content file).length ≤ got.length then some (.inr (.bytes got)) else none
  | .opening, .fail message | .reading _ _, .fail message => some (.inr (.failed message))
  | .opening, .piece _ | .opening, .atEnd | .reading _ _, .openFile => none

theorem append_prefix_iff {A : Type*} {got chunk v : List A} :
    got ++ chunk <+: v ↔ got <+: v ∧ chunk = (v.drop got.length).take chunk.length := by
  constructor
  · rintro ⟨rest, rfl⟩
    refine ⟨⟨chunk ++ rest, by simp⟩, ?_⟩
    rw [List.append_assoc, List.drop_left, List.take_left]
  · rintro ⟨⟨rest, rfl⟩, hchunk⟩
    rw [List.drop_left] at hchunk
    rw [List.prefix_append_right_inj, hchunk]
    exact List.take_prefix _ _

end Penguind.Foundation
