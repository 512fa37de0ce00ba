import IndexBench.Proofs.Record.Runs
import Mathlib.Data.List.Basic

/-!
# Inputs cut behind a terminator

A terminator ends the record before it, so what comes behind it has no part in the records
before it.  An input that is cut right behind a terminator therefore has the first records
of the whole input, with the same bytes in the same places.  Among them are all that begin
in front of the cut.

Main definitions:

- `Record.Ended` says that a record may begin behind a run of bytes.
- `Record.Begins` says at which offset the first byte of a record stands.

Main results:

- Theorem `Cursor.existsUnique_begins`: each record begins at one offset.
- Theorem `Cursor.records_isPrefix`: an input cut behind a terminator has the first records of
  the whole input.
- Theorem `Cursor.lt_length_records_of_begins`: among them are those that begin before the
  terminator.
-/

namespace IndexBench
namespace Record

/-! ## Bytes that end in a terminator -/

/-- Whether a record may begin behind a run of bytes: there are none, or the last of them is a
terminator. -/
inductive Ended : List UInt8 → Prop where
  | nothing : Ended []
  | concat {terminator : UInt8} (h : isTerminator terminator = true) (start : List UInt8) :
      Ended (start ++ [terminator])

/-- Behind a terminator the runs begin anew. -/
theorem Ended.runs_append {bytes : List UInt8} (h : Ended bytes) (rest : List UInt8) :
    runs (bytes ++ rest) = runs bytes ++ runs rest := by
  cases h with
  | nothing => rfl
  | concat hterminator start =>
      have hended := runs_append_cons hterminator start []
      rw [runs_nil, List.append_nil] at hended
      rw [hended, List.append_assoc]
      exact runs_append_cons hterminator start rest

/-- What ends in a terminator does so behind its first bytes as well. -/
theorem Ended.of_append {front back : List UInt8} (h : Ended (front ++ back)) : Ended back := by
  rcases List.eq_nil_or_concat' back with rfl | ⟨start, last, rfl⟩
  · exact .nothing
  · generalize hbytes : front ++ (start ++ [last]) = bytes at h
    cases h with
    | nothing => simp at hbytes
    | @concat terminator hterminator before =>
        rw [← List.append_assoc] at hbytes
        obtain rfl : last = terminator := List.singleton_inj.mp (List.append_inj' hbytes rfl).2
        exact .concat hterminator start

/-- Bytes that are all terminators end in one. -/
theorem Ended.of_forall {blanks : List UInt8} (h : ∀ b ∈ blanks, isTerminator b = true) :
    Ended blanks := by
  rcases List.eq_nil_or_concat' blanks with rfl | ⟨start, last, rfl⟩
  · exact .nothing
  · exact .concat (h last (by simp)) start

/-- Bytes in a row end in a terminator if the last ones do. -/
theorem Ended.append {front back : List UInt8} (hfront : Ended front) (hback : Ended back) :
    Ended (front ++ back) := by
  cases hback with
  | nothing => rwa [List.append_nil]
  | concat hterminator start =>
      rw [← List.append_assoc]
      exact .concat hterminator (front ++ start)

/-! ## The mark at the start -/

/-- A mark does not reach to a terminator among the first three bytes. -/
theorem take_ne_byteOrderMark {terminator : UInt8} (h : isTerminator terminator = true)
    {front : List UInt8} (hshort : front.length < 3) (rest : List UInt8) :
    (front ++ terminator :: rest).take 3 ≠ byteOrderMark := by
  intro hmark
  have hmem : terminator ∈ (front ++ terminator :: rest).take 3 := by
    rw [List.take_append, List.mem_append, List.take_cons (by omega)]
    exact .inr (List.mem_cons_self ..)
  have hnone : ∀ b ∈ byteOrderMark, isTerminator b = false := by
    simp [byteOrderMark, isTerminator, lineFeed]
  rw [hmark] at hmem
  rw [hnone terminator hmem] at h
  cases h

/-- Whether an input starts with a mark is seen in front of its first cut. -/
theorem withoutMark_append_cons {terminator : UInt8} (h : isTerminator terminator = true)
    (front rest : List UInt8) :
    withoutMark (front ++ terminator :: rest) = withoutMark (front ++ [terminator]) ++ rest := by
  rcases Nat.lt_or_ge front.length 3 with hshort | hlong
  · rw [withoutMark, withoutMark, if_neg (take_ne_byteOrderMark h hshort rest),
      if_neg (take_ne_byteOrderMark h hshort []), List.append_assoc]
    rfl
  · simp only [withoutMark, List.take_append_of_le_length hlong,
      List.drop_append_of_le_length hlong]
    split <;> simp only [List.append_assoc, List.cons_append, List.nil_append]

/-- An input is its mark, if it has one, and what comes behind it. -/
theorem exists_mark (bytes : List UInt8) : ∃ mark, bytes = mark ++ withoutMark bytes := by
  obtain ⟨mark, hmark, -⟩ := (Cursor.ofBytes bytes).exists_rest_eq
  rw [Cursor.body_ofBytes] at hmark
  exact ⟨mark, hmark⟩

/-- The runs of an input are those in front of a cut and those behind it. -/
theorem runs_withoutMark_append_cons {terminator : UInt8} (h : isTerminator terminator = true)
    (front rest : List UInt8) :
    runs (withoutMark (front ++ terminator :: rest)) =
      runs (withoutMark (front ++ [terminator])) ++ runs rest := by
  have hended : Ended (front ++ [terminator]) := .concat h front
  obtain ⟨mark, hmark⟩ := exists_mark (front ++ [terminator])
  rw [hmark] at hended
  rw [withoutMark_append_cons h front rest, hended.of_append.runs_append]

/-! ## Where a record begins -/

/-- Whether the first byte of the record of a number stands at an offset: it is no
terminator, it stands at the start of the text or behind a terminator, and in front of it
there are as many records as the number says. -/
def Begins (bytes : List UInt8) (count offset : Nat) : Prop :=
  ∃ mark before first after, bytes = mark ++ before ++ first :: after ∧
    withoutMark bytes = before ++ first :: after ∧ isTerminator first = false ∧ Ended before ∧
    (runs before).length = count ∧ (mark ++ before).length = offset

/-- Where a record begins there is another run. -/
theorem length_runs_lt_of_ended {before : List UInt8} (hbefore : Ended before) {first : UInt8}
    (hfirst : isTerminator first = false) (after : List UInt8) :
    (runs before).length < (runs (before ++ first :: after)).length := by
  have hrun := List.length_pos_iff.mpr (runs_cons_ne_nil hfirst after)
  rw [hbefore.runs_append, List.length_append]
  omega

/-- A record does not begin at two offsets. -/
theorem Begins.unique {bytes : List UInt8} {count offset offset' : Nat}
    (h : Begins bytes count offset) (h' : Begins bytes count offset') : offset = offset' := by
  -- in front of a later offset there are more records
  have hle : ∀ {offset offset'}, Begins bytes count offset → Begins bytes count offset' →
      offset' ≤ offset := by
    rintro _ _ ⟨mark, before, first, after, hbytes, hbody, hfirst, hbefore, hcount, rfl⟩
      ⟨mark', before', first', after', hbytes', hbody', -, -, hcount', rfl⟩
    have hmarks : mark.length = mark'.length := by
      have hlength := congrArg List.length hbytes
      rw [hbytes', List.append_assoc, List.append_assoc, ← hbody, ← hbody', List.length_append,
        List.length_append] at hlength
      omega
    rw [List.length_append, List.length_append, hmarks]
    refine Nat.add_le_add_left (Nat.not_lt.mp fun hlt => ?_) _
    obtain ⟨between, hbetween⟩ : before ++ [first] <+: before' :=
      List.prefix_of_prefix_length_le ⟨after, by rw [hbody]; simp⟩ ⟨_, hbody'.symm⟩ (by simpa)
    rw [List.append_assoc] at hbetween
    have hless := length_runs_lt_of_ended hbefore hfirst between
    rw [← hcount'] at hcount
    rw [hcount, ← hbetween] at hless
    exact absurd hless (Nat.lt_irrefl _)
  exact Nat.le_antisymm (hle h' h) (hle h h')

/-- An input that is cut behind a record that begins has this record. -/
theorem Begins.lt_length_runs {front rest : List UInt8} {terminator : UInt8}
    (hterminator : isTerminator terminator = true) {count offset : Nat}
    (h : Begins (front ++ terminator :: rest) count offset) (hoffset : offset ≤ front.length) :
    count < (runs (withoutMark (front ++ [terminator]))).length := by
  obtain ⟨mark, before, first, after, hbytes, hbody, hfirst, hbefore, rfl, rfl⟩ := h
  have hne : (mark ++ before).length ≠ front.length := by
    intro heq
    obtain ⟨-, hrest⟩ := List.append_inj hbytes heq.symm
    obtain rfl := (List.cons.inj hrest).1
    rw [hterminator] at hfirst
    cases hfirst
  have hstart : mark ++ before ++ [first] <+: front ++ terminator :: rest :=
    ⟨after, by rw [hbytes, List.append_assoc _ [first], List.singleton_append]⟩
  obtain ⟨between, hbetween⟩ : mark ++ before ++ [first] <+: front := by
    refine List.prefix_of_prefix_length_le hstart (List.prefix_append _ _) ?_
    rw [List.length_append, List.length_singleton]
    omega
  have hcut : withoutMark (front ++ [terminator]) =
      before ++ first :: (between ++ [terminator]) := by
    rw [withoutMark_append_cons hterminator] at hbody
    have hback : mark ++ (before ++ first :: after) =
        mark ++ (before ++ first :: (between ++ [terminator]) ++ rest) := by
      rw [← List.append_assoc, ← hbytes, ← hbetween]
      simp only [List.append_assoc, List.cons_append, List.nil_append]
    exact List.append_cancel_right (hbody.trans (List.append_cancel_left hback))
  rw [hcut]
  exact length_runs_lt_of_ended hbefore hfirst _

/-! ## What was consumed -/

/-- What was consumed of an input that is cut behind a terminator was consumed of the whole
input. -/
theorem Consumed.append {front before : List UInt8} {terminator : UInt8} {count : Nat}
    (hterminator : isTerminator terminator = true)
    (h : Consumed (front ++ [terminator]) count before)
    (hcount : count ≤ (runs (withoutMark (front ++ [terminator]))).length) (rest : List UInt8) :
    Consumed (front ++ terminator :: rest) count before := by
  have hended : Ended (front ++ [terminator]) := .concat hterminator front
  cases h with
  | nothing => exact .nothing
  | @through start left last ending count hbytes hlast hending hleft =>
      have hwhole : front ++ terminator :: rest = start ++ [last, ending] ++ (left ++ rest) := by
        rw [← List.append_assoc, ← hbytes, List.append_assoc]
        rfl
      have hback : Ended left := (hbytes ▸ hended).of_append
      refine .through hwhole hlast hending ?_
      rw [hback.runs_append, hleft, runs_withoutMark_append_cons hterminator front rest,
        List.drop_append_of_le_length hcount]

end Record

namespace Cursor

open Record

/-! ## Records -/

/-- There are as many records as runs. -/
theorem length_records_ofBytes (bytes : List UInt8) :
    (ofBytes bytes).records.length = (runs (withoutMark bytes)).length := by
  have hlength := congrArg List.length (map_fields_records (ofBytes bytes))
  rwa [List.length_map, List.length_map, body_ofBytes] at hlength

/-- Each record that is left has a first byte. -/
theorem exists_first {c : Cursor} {k : Nat} (hk : k < c.records.length) :
    ∃ before first after, c.body = before ++ first :: after ∧ isTerminator first = false ∧
      Ended before ∧ (runs before).length = k := by
  induction c using records.induct generalizing k with
  | case1 c hnext =>
      rw [records_of_next_eq_none hnext] at hk
      cases hk
  | case2 c record c' hnext _ ih =>
      obtain ⟨blanks, run, ended, hblanks, hne, hrun, hended, hbody, -, hcursor⟩ :=
        next_eq_some hnext
      rw [records_of_next_eq_some hnext, List.length_cons] at hk
      have hbegin := Ended.of_forall hblanks
      have hskip := runs_append_of_terminators hblanks
      cases k with
      | zero =>
          obtain ⟨first, run, rfl⟩ := List.exists_cons_of_ne_nil hne
          refine ⟨blanks, first, run ++ ended ++ c'.rest, ?_, hrun first (.head _), hbegin, ?_⟩
          · rw [hbody]
            simp only [List.append_assoc, List.cons_append]
          · rw [← List.append_nil blanks, hskip]
            rfl
      | succ k =>
          obtain ⟨before, first, after, hlater, hfirst, hbefore, hcount⟩ :=
            ih (Nat.lt_of_succ_lt_succ hk)
          rw [body_of_started (by rw [hcursor])] at hlater
          -- bytes are left, so a terminator ends the run
          rcases hended with ⟨-, hrest⟩ | ⟨terminator, rfl, hterminator⟩
          · rw [hrest] at hlater
            simp at hlater
          have hthrough : Ended (blanks ++ run ++ [terminator]) := .concat hterminator _
          refine ⟨blanks ++ run ++ [terminator] ++ before, first, after, ?_, hfirst,
            hthrough.append hbefore, ?_⟩
          · rw [hbody, hlater, List.append_assoc _ before]
          · rw [List.append_assoc, List.append_assoc, hskip, List.singleton_append,
              runs_run_append_cons hne hrun hterminator, List.length_cons, hcount]

/-- Each record begins at one offset. -/
theorem existsUnique_begins {bytes : List UInt8} {k : Nat}
    (hk : k < (ofBytes bytes).records.length) : ∃! offset, Begins bytes k offset := by
  obtain ⟨before, first, after, hbody, hfirst, hbefore, hcount⟩ := exists_first hk
  rw [body_ofBytes] at hbody
  obtain ⟨mark, hmark⟩ := exists_mark bytes
  have hbegins : Begins bytes k (mark ++ before).length :=
    ⟨mark, before, first, after, by rw [List.append_assoc, ← hbody, ← hmark], hbody, hfirst,
      hbefore, hcount, rfl⟩
  exact ⟨_, hbegins, fun offset h => h.unique hbegins⟩

/-- An input cut behind a terminator has the first records of the whole input. -/
theorem records_isPrefix {terminator : UInt8} (h : isTerminator terminator = true)
    (front rest : List UInt8) :
    (ofBytes (front ++ [terminator])).records <+:
      (ofBytes (front ++ terminator :: rest)).records := by
  rw [List.prefix_iff_getElem?]
  intro k hk
  obtain ⟨run, before, hrun, hbefore, hrecord⟩ :=
    getElem?_records_eq_some_iff.mp (List.getElem?_eq_getElem hk)
  rw [length_records_ofBytes] at hk
  refine getElem?_records_eq_some_iff.mpr
    ⟨run, before, ?_, hbefore.append h hk.le rest, hrecord⟩
  rw [runs_withoutMark_append_cons h front rest, List.getElem?_append_left hk, hrun]

/-- An input cut behind a terminator has the records that begin before it. -/
theorem lt_length_records_of_begins {terminator : UInt8} (h : isTerminator terminator = true)
    {front rest : List UInt8} {k offset : Nat}
    (hk : Begins (front ++ terminator :: rest) k offset) (hoffset : offset ≤ front.length) :
    k < (ofBytes (front ++ [terminator])).records.length := by
  rw [length_records_ofBytes]
  exact hk.lt_length_runs h hoffset

end Cursor
end IndexBench
