import CodeRuns.Proofs.Listing.RoundTrip

/-! Whether a listing begins with comments only. That depends on the version of the database, which
may bring lines of its own into the head. -/

namespace CodeRuns.Listing

/-- The lines before the expression of a table are all comments if and only if every line of the
version but its first begins as one, and the listing can then be read back as its table. A version
that fits into one line has no such lines. A line counts as a comment by its two slashes alone, also
where a third slash or an exclamation mark makes it documentation to whoever includes the listing. -/
theorem head_is_comment_iff (t : RunTable) (h : Header) :
    ∃ lines : List (List Char), (write t h .unlimited).sink.text.toList =
        lines.flatMap (· ++ ['\n']) ++ (body t).toList ∧
      "ClassificationData \x7b\n".toList <+: (body t).toList ∧ (∀ line ∈ lines, '\n' ∉ line) ∧
      ((∀ line ∈ lines, "//".toList <+: line) ↔ ∀ line ∈ h.laterLines, "//".toList <+: line) ∧
      ((∀ line ∈ h.laterLines, "//".toList <+: line) →
        Denotes (write t h .unlimited).sink.text.toList t) ∧
      (h.OneLine → h.laterLines = []) := by
  have hbegins : "ClassificationData \x7b\n".toList <+:
      "ClassificationData \x7b\n  starts: &[".toList := by decide +kernel
  rw [text_write_unlimited]
  refine ⟨headRows h, toList_text t h, ?_, fun line hline => feed_not_mem_of_mem_headRows hline,
    ?_, fun hcomment => ?_, Header.OneLine.laterLines_eq⟩
  · rw [toList_body]
    simp only [List.append_assoc]
    exact hbegins.trans (List.prefix_append _ _)
  · rw [← kept_eq_nil_iff, ← kept_eq_nil_iff, kept_headRows]
  · exact denotes_of_comments t hcomment

theorem head_is_comment_continued :
    (∀ line ∈ Header.laterLines ⟨some "15.1\n// draft"⟩, "//".toList <+: line) ∧
      Denotes (write ⟨#[0x41, 0x41], #[.other, .other]⟩ ⟨some "15.1\n// draft"⟩
        .unlimited).sink.text.toList ⟨#[0x41, 0x41], #[.other, .other]⟩ := by
  have hcomment : ∀ line ∈ Header.laterLines ⟨some "15.1\n// draft"⟩, "//".toList <+: line := by
    decide +kernel
  obtain ⟨-, -, -, -, -, hdenotes, -⟩ :=
    head_is_comment_iff ⟨#[0x41, 0x41], #[.other, .other]⟩ ⟨some "15.1\n// draft"⟩
  exact ⟨hcomment, hdenotes hcomment⟩

def twoVersions : Header := ⟨some "15.1\n16.0"⟩

def letterTable : RunTable := ⟨#[0x41, 0x41], #[.identifierStart, .identifierStart]⟩

theorem head_of_two_versions :
    (∃ lines : List (List Char), (write letterTable twoVersions .unlimited).sink.text.toList =
        lines.flatMap (· ++ ['\n']) ++ (body letterTable).toList ∧
      (∀ line ∈ lines, '\n' ∉ line) ∧ "16.0".toList ∈ lines) ∧
      ¬ "//".toList <+: "16.0".toList ∧
      ∀ t, ¬ Denotes (write letterTable twoVersions .unlimited).sink.text.toList t := by
  have hkept : kept twoVersions.laterLines = ["16.0".toList] := by decide +kernel
  rw [text_write_unlimited]
  refine ⟨⟨headRows twoVersions, toList_text _ _,
    fun line hline => feed_not_mem_of_mem_headRows hline, ?_⟩, by decide, ?_⟩
  · have hmem : "16.0".toList ∈ kept (headRows twoVersions) := by
      rw [kept_headRows, hkept]
      exact List.mem_singleton_self _
    rw [kept, List.mem_filter] at hmem
    exact hmem.1
  · rintro t ⟨starts, roles, hsource, -⟩
    -- what is left begins with the version and not with the name of the table
    have hname : (tableSource starts roles).head? = some 'C' := by
      have hfirst : "ClassificationData\x7bstarts:&[".toList.head? = some 'C' := by decide +kernel
      delta tableSource
      simp only [List.head?_append, hfirst, Option.some_or]
    have hnumber : (squeezed "16.0".toList).head? = some '1' := by decide +kernel
    rw [uncommented_text, hkept, List.flatten_singleton, squeezed_append] at hsource
    rw [← hsource, List.head?_append, hnumber, Option.some_or] at hname
    exact absurd hname (by decide)

end CodeRuns.Listing
