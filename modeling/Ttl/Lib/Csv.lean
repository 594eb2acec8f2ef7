import Mathlib.Data.List.Forall2
import Ttl.Lib.Runs

/-!
# Comma-separated values

A reader for RFC 4180 that takes one character after the other. A field is plain, or it stands in quotes, with two
quotes for a quote; a record ends at a line feed outside quotes. The reader is strict: a plain field has no carriage
return, no quote stands in the middle of a plain field, and the last record ends with a line feed.

`read_text` is the round trip for fields that are written in either way.
-/

namespace Csv

open Runs

/-- Where the reader is in a field. -/
inductive Mode where
  | start
  | plain
  | quoted
  /-- After a quote in a quoted field, which ends the field or is the first of two. -/
  | closed
deriving DecidableEq

/-- The reader: the records that are read, the fields of the next one, and the field it is in. -/
structure Reader where
  records : List (List (List Char))
  fields : List (List Char)
  field : List Char
  mode : Mode
deriving DecidableEq

/-- At the start of a record. -/
def Reader.fresh (records : List (List (List Char))) : Reader := ⟨records, [], [], .start⟩

/-- A character of a plain field. -/
def isPlain (c : Char) : Bool := c ≠ ',' && c ≠ '"' && c ≠ '\n' && c ≠ '\r'

/-- The end of a field. -/
def Reader.separate (s : Reader) (c : Char) : Option Reader :=
  if c = ',' then some ⟨s.records, s.fields ++ [s.field], [], .start⟩
  else if c = '\n' then some (.fresh (s.records ++ [s.fields ++ [s.field]]))
  else none

/-- One character. -/
def step (s : Reader) (c : Char) : Option Reader :=
  match s.mode with
  | .start =>
    if c = '"' then some { s with mode := .quoted }
    else if isPlain c then some { s with field := s.field ++ [c], mode := .plain }
    else s.separate c
  | .plain => if isPlain c then some { s with field := s.field ++ [c] } else s.separate c
  | .quoted => if c = '"' then some { s with mode := .closed } else some { s with field := s.field ++ [c] }
  | .closed => if c = '"' then some { s with field := s.field ++ [c], mode := .quoted } else s.separate c

/-- The records of a text. -/
def read (text : List Char) : Option (List (List (List Char))) :=
  (run step (.fresh []) text).bind fun s => if s = .fresh s.records then some s.records else none

example : read "a,\"b\"\"\n\"\n,c\n".toList = some [["a".toList, "b\"\n".toList], [[], "c".toList]] := by decide

/-! ## Writing -/

/-- A field in quotes. -/
def quote (value : List Char) : List Char :=
  '"' :: (value.flatMap fun c => if c = '"' then ['"', '"'] else [c]) ++ ['"']

/-- A text of a field. -/
def Writes (text value : List Char) : Prop := (text = value ∧ ∀ c ∈ value, isPlain c) ∨ text = quote value

/-- A plain value may be written as it is. -/
theorem writes_plain {value : List Char} (h : ∀ c ∈ value, isPlain c) : Writes value value := .inl ⟨rfl, h⟩

/-- Any value may be written in quotes. -/
theorem writes_quote (value : List Char) : Writes (quote value) value := .inr rfl

/-- A record, with its line feed. -/
def recordText (fields : List (List Char)) : List Char := List.intercalate [','] fields ++ ['\n']

variable {s : Reader} {text value : List Char}

/-- A comma or a line feed outside quotes ends the field. -/
theorem step_separate {c : Char} (hmode : s.mode ≠ .quoted) (hc : c = ',' ∨ c = '\n') : step s c = s.separate c := by
  unfold step
  cases hm : s.mode with
  | quoted => exact absurd hm hmode
  | _ => obtain rfl | rfl := hc <;> rfl

/-- Plain characters are collected. -/
theorem run_plain (h : ∀ c ∈ value, isPlain c) (hmode : s.mode = .start ∨ s.mode = .plain) :
    ∃ mode ≠ Mode.quoted, run step s value = some { s with field := s.field ++ value, mode := mode } := by
  induction value generalizing s with
  | nil =>
    refine ⟨s.mode, ?_, ?_⟩
    · rintro hm
      rw [hm] at hmode
      simp at hmode
    · rw [List.append_nil]
      rfl
  | cons c value ih =>
    obtain ⟨hc, h⟩ := List.forall_mem_cons.mp h
    have hquote : c ≠ '"' := by
      rintro rfl
      exact absurd hc (by decide)
    have hstep : step s c = some { s with field := s.field ++ [c], mode := .plain } := by
      unfold step
      obtain hm | hm := hmode
      · rw [hm]
        dsimp only
        rw [if_neg hquote, if_pos hc]
      · rw [hm]
        dsimp only
        rw [if_pos hc, ← hm]
    -- After one character the field is plain, whether it was begun or not.
    obtain ⟨mode, hmode, hrun⟩ := @ih { s with field := s.field ++ [c], mode := .plain } h (.inr rfl)
    refine ⟨mode, hmode, ?_⟩
    rw [run_cons, hstep, Option.bind_some, hrun, List.append_assoc, List.singleton_append]

/-- In quotes every character is collected. -/
theorem run_quoted (hmode : s.mode = .quoted) :
    run step s (value.flatMap fun c => if c = '"' then ['"', '"'] else [c]) =
      some { s with field := s.field ++ value } := by
  induction value generalizing s with
  | nil =>
    rw [List.append_nil]
    rfl
  | cons c value ih =>
    have hone : run step s (if c = '"' then ['"', '"'] else [c]) = some { s with field := s.field ++ [c] } := by
      obtain ⟨records, fields, field, mode⟩ := s
      obtain rfl : mode = .quoted := hmode
      by_cases hc : c = '"'
      · -- The first of two quotes closes the field, and the second one opens it again.
        subst hc
        rfl
      · rw [if_neg hc, run_cons, step]
        dsimp only
        rw [if_neg hc]
        rfl
    rw [List.flatMap_cons, run_append, hone, Option.bind_some]
    have hrest := @ih { s with field := s.field ++ [c] } hmode
    rw [hrest, List.append_assoc, List.singleton_append]

/-- A field is read. -/
theorem run_field (h : Writes text value) (records : List (List (List Char))) (fields : List (List Char)) :
    ∃ mode ≠ Mode.quoted, run step ⟨records, fields, [], .start⟩ text = some ⟨records, fields, value, mode⟩ := by
  obtain ⟨rfl, hplain⟩ | rfl := h
  · exact run_plain hplain (.inl rfl)
  · refine ⟨.closed, by decide, ?_⟩
    have hopen : run step ⟨records, fields, [], .start⟩ ['"'] = some ⟨records, fields, [], .quoted⟩ := rfl
    have hbody := @run_quoted ⟨records, fields, [], .quoted⟩ value rfl
    have htext : quote value = ['"'] ++ (value.flatMap fun c => if c = '"' then ['"', '"'] else [c]) ++ ['"'] := rfl
    rw [htext, List.append_assoc]
    exact run_trans hopen (run_trans hbody rfl)

/-- A record is read. -/
theorem run_record {texts values : List (List Char)} (h : List.Forall₂ Writes texts values) (hne : values ≠ [])
    (records : List (List (List Char))) (fields : List (List Char)) :
    run step ⟨records, fields, [], .start⟩ (recordText texts) = some (.fresh (records ++ [fields ++ values])) := by
  induction h generalizing fields with
  | nil => exact absurd rfl hne
  | @cons text value texts values hfield hrest ih =>
    obtain ⟨mode, hmode, hrun⟩ := run_field hfield records fields
    cases hrest with
    | nil =>
      rw [recordText, List.intercalate_singleton]
      refine run_trans hrun ?_
      rw [run_cons, step_separate hmode (.inr rfl)]
      rfl
    | @cons next _ texts _ _ _ =>
      have hsep : run step ⟨records, fields, value, mode⟩ [','] = some ⟨records, fields ++ [value], [], .start⟩ := by
        rw [run_cons, step_separate hmode (.inl rfl)]
        rfl
      rw [recordText, List.intercalate_cons_cons, List.append_assoc, List.append_assoc]
      refine run_trans hrun (run_trans hsep ?_)
      -- The fields that have been read are kept to the left.
      have hnext := ih (List.cons_ne_nil _ _) (fields ++ [value])
      rw [List.append_assoc, List.singleton_append] at hnext
      exact hnext

/-- Records are read. -/
theorem run_records {texts values : List (List (List Char))} (h : List.Forall₂ (List.Forall₂ Writes) texts values)
    (hne : ∀ record ∈ values, record ≠ []) (records : List (List (List Char))) :
    run step (.fresh records) (texts.flatMap recordText) = some (.fresh (records ++ values)) := by
  induction h generalizing records with
  | nil =>
    rw [List.append_nil]
    rfl
  | @cons text value texts values hrecord hrest ih =>
    obtain ⟨hvalue, hne⟩ := List.forall_mem_cons.mp hne
    rw [List.flatMap_cons]
    refine run_trans (run_record hrecord hvalue records []) ?_
    have hnext := ih hne (records ++ [value])
    rw [List.append_assoc, List.singleton_append] at hnext
    exact hnext

/-- **The round trip.** What is written is read. -/
theorem read_text {texts values : List (List (List Char))} (h : List.Forall₂ (List.Forall₂ Writes) texts values)
    (hne : ∀ record ∈ values, record ≠ []) : read (texts.flatMap recordText) = some values := by
  rw [read, run_records h hne, Option.bind_some]
  exact if_pos rfl

end Csv
