import FacetedSearch.Proofs.Compile.Requests
import FacetedSearch.Proofs.Time.Days

/-!
# Days in requests

A day may be supplied as itself or as the text that stands for it in JSON. Both are the start of
the day, in every year that can be read, so an option for a moment has the same setting and gives
the same request in either form.
-/

namespace FacetedSearch

/--
The JSON of a day is a text that is read as the start of the day, in all years from -262143 to
262142. An option for a moment takes the day and the text as the same bound, whatever other options
there are, and a search with the one compiles to the same request, or the same error, as with the
other.
-/
theorem days_read_back (date : Date) (hyear : -262143 ≤ date.year ∧ date.year ≤ 262142) :
    ∃ text, (Supplied.date date).toJson = .string text ∧
      Time.readTimestamp text = some (.ofDay date) ∧
      (∀ (schema : Schema) (name : String), schema.shapes.get? name = some .moment →
        schema.read name (.date date) = .ok (.moment (some (Instant.ofDay date).canonical)) ∧
        schema.read name (.text text) = .ok (.moment (some (Instant.ofDay date).canonical)) ∧
        ∀ options : OptionSet, schema.settings (options.insert name (.date date)) =
          schema.settings (options.insert name (.text text))) ∧
      ∀ (configuration : Configuration) (collection : Collection) (options : OptionSet)
        (name : String), ⟨name, .moment⟩ ∈ collection.declarations →
          compile configuration collection (options.insert name (.date date)) =
            compile configuration collection (options.insert name (.text text)) := by
  have htext : Time.readTimestamp (String.ofList date.text) = some (.ofDay date) :=
    Time.readTimestamp_text hyear
  have hdate : Shape.moment.read (.date date) =
      .ok (.moment (some (Instant.ofDay date).canonical)) := Shape.read_moment rfl
  have hread : Shape.moment.read (.text (String.ofList date.text)) =
      .ok (.moment (some (Instant.ofDay date).canonical)) := Shape.read_moment htext
  refine ⟨_, rfl, htext, fun schema name hshape => ⟨?_, ?_, fun options => ?_⟩, ?_⟩
  · exact Schema.read_eq_ok_iff.mpr ⟨.moment, hshape, hdate⟩
  · exact Schema.read_eq_ok_iff.mpr ⟨.moment, hshape, hread⟩
  · exact Schema.settings_insert_congr (Schema.read_congr hshape (hdate.trans hread.symm)) options
  · intro configuration collection options name hname
    exact compile_insert_congr hname (hdate.trans hread.symm)

/-- The first and the last day that there are, with a sign before the year, are read back. -/
theorem first_and_last_day_read_back :
    Time.readTimestamp "-262143-01-01" =
        some (.ofDay ⟨-262143, 1, 1, by decide, by decide⟩) ∧
      Time.readTimestamp "+262142-12-31" =
        some (.ofDay ⟨262142, 12, 31, by decide, by decide⟩) := by
  let start : Date := ⟨-262143, 1, 1, by decide, by decide⟩
  let last : Date := ⟨262142, 12, 31, by decide, by decide⟩
  have hstart : String.ofList start.text = "-262143-01-01" := by decide +kernel
  have hlast : String.ofList last.text = "+262142-12-31" := by decide +kernel
  obtain ⟨text, hjson, hread, -⟩ := days_read_back start (by decide)
  obtain ⟨text', hjson', hread', -⟩ := days_read_back last (by decide)
  rw [← Json.string.inj hjson, hstart] at hread
  rw [← Json.string.inj hjson', hlast] at hread'
  exact ⟨hread, hread'⟩

end FacetedSearch
