import RecordStore.Proofs.ReadBack
/-!
# The log in storage

A migration is recorded in the log as a document, and every run reads these documents again. What
is read is what was recorded: whole versions of 64 bits, any description, and a time to the
nanosecond, for every time that the clock shows in a year of at most four digits. An entry is
found by the decimal text of its version, which no other version has.

## Main results

* `Instant.regular_of_year`: the years 0 to 9999 lie within those that are kept.
* `LogEntry.applied_stored`: a migration that is recorded is read back from the log.
-/

namespace RecordStore

theorem Instant.regular_of_year {t : Instant} (hfirst : 0 ≤ t.date.year)
    (hlast : t.date.year ≤ 9999) (hnanos : t.nanos < 10 ^ 9) : t.Regular := by
  have hyear : t.date.year = yearOfDay (t.seconds / 86400) := by
    obtain ⟨_, -, hyear, -⟩ := Date.ofDays_spec (t.seconds / 86400)
    exact hyear
  rw [hyear] at hfirst hlast
  -- the day lies in its year, and the first and the last day that are kept are far from there
  obtain ⟨hlow, hhigh⟩ := yearOfDay_spec (t.seconds / 86400)
  have hstart := (daysBeforeYear_bounds (yearOfDay (t.seconds / 86400))).1
  have hend := (daysBeforeYear_bounds (yearOfDay (t.seconds / 86400) + 1)).2
  have hfirstDay : firstDay = -96465292 := by decide +kernel
  have hlastDay : lastDay = 95026236 := by decide +kernel
  refine ⟨?_, ?_, hnanos⟩
  · rw [hfirstDay]
    omega
  · rw [hlastDay]
    omega

namespace LogEntry

/-- **What is recorded is read back.** The entry of a migration is always stored, and its document
is read as the entry with the decimal text of the version for its identity, the version, the
description and the time. A migration of another version is recorded under another identity. -/
theorem applied_stored {σ : Type} (m : Migration σ) {t : Instant} (hfirst : 0 ≤ t.date.year)
    (hlast : t.date.year ≤ 9999) (hnanos : t.nanos < 10 ^ 9) :
    (∃ d, Record.encode (applied m t) = .ok d ∧
      Record.decode d =
        .ok (⟨toString m.version.toInt, m.version, m.description, t⟩ : LogEntry)) ∧
      ∀ (m' : Migration σ) (t' : Instant), m'.version ≠ m.version →
        (applied m' t').id ≠ (applied m t).id := by
  have hregular : (applied m t).timestamp.Regular := Instant.regular_of_year hfirst hlast hnanos
  refine ⟨⟨(applied m t).toDocument, rfl, decode_toDocument hregular⟩, ?_⟩
  intro m' t' hne hid
  exact hne (Migration.versionText_inj hid)

/-- The last nanosecond of the year 9999. -/
def lastNanosecond : Instant :=
  ⟨253402300799, 999999999, by decide⟩

/-- The least version, recorded in the last nanosecond of the year 9999, and beside it the
greatest one. -/
theorem applied_stored_of_least_version :
    0 ≤ lastNanosecond.date.year ∧ lastNanosecond.date.year ≤ 9999 ∧
      lastNanosecond.nanos < 10 ^ 9 ∧ (Int64.maxValue ≠ Int64.minValue) ∧
      (∃ d, Record.encode
          (applied (⟨Int64.minValue, "\"\n", pure (), none⟩ : Migration Unit) lastNanosecond) =
            .ok d ∧
        Record.decode d =
          .ok (⟨"-9223372036854775808", Int64.minValue, "\"\n", lastNanosecond⟩ : LogEntry)) ∧
      (applied (⟨Int64.maxValue, "", pure (), none⟩ : Migration Unit) .epoch).id ≠
        (applied (⟨Int64.minValue, "\"\n", pure (), none⟩ : Migration Unit) lastNanosecond).id := by
  have hyear : lastNanosecond.date.year = 9999 := by decide +kernel
  have hnanos : lastNanosecond.nanos < 10 ^ 9 := by decide
  have hne : Int64.maxValue ≠ Int64.minValue := by decide
  have htext : toString Int64.minValue.toInt = "-9223372036854775808" := by decide +kernel
  obtain ⟨hstored, hids⟩ := applied_stored
    (⟨Int64.minValue, "\"\n", pure (), none⟩ : Migration Unit)
    (t := lastNanosecond) (by omega) (by omega) hnanos
  rw [htext] at hstored
  exact ⟨by omega, by omega, hnanos, hne, hstored, hids _ .epoch hne⟩

end LogEntry

end RecordStore
