import PgSession.Message.Notice

/-!
An error report next to a notice with the same fields. With a severity both read the same, and show
every field that has a place in the text. Without one a label stands in its place, and a notice goes on
as before; but a report ends after its message, so that code, detail and hint are dropped.
-/

namespace PgSession.Proofs

/-- What a text says after the message. -/
def additions (notice : Notice) : String :=
  (notice.code?.map fun code => " (" ++ code ++ ")").getD "" ++
    (notice.detail?.map fun detail => "\nDETAIL: " ++ detail).getD "" ++
    (notice.hint?.map fun hint => "\nHINT: " ++ hint).getD ""

/-- The text of a notice, with a label for a severity that is missing. -/
def labelled (label : String) (notice : Notice) : String :=
  notice.severity?.getD label ++ ": " ++ notice.message?.getD "" ++ additions notice

/-- The fields that the additions are made of. -/
def additionalFields : List Char := ['C', 'D', 'H']

private theorem display_labelled (notice : Notice) : notice.display = labelled "NOTICE" notice := by
  calc notice.display
      = notice.severity?.getD "NOTICE" ++ ": " ++ notice.message?.getD "" ++
          (notice.code?.map fun code => " (" ++ code ++ ")").getD "" ++
          (notice.detail?.map fun detail => "\nDETAIL: " ++ detail ++ "").getD "" ++
          (notice.hint?.map fun hint => "\nHINT: " ++ hint ++ "").getD "" := by
        unfold Notice.display
        cases notice.code? <;> cases notice.detail? <;> cases notice.hint? <;> rfl
    _ = labelled "NOTICE" notice := by
        simp only [labelled, additions, String.append_empty, String.append_assoc]

private theorem labelled_of_severity {notice : Notice} (known : notice.severity? ≠ none)
    (label other : String) : labelled label notice = labelled other notice := by
  obtain ⟨severity, known⟩ := Option.ne_none_iff_exists'.mp known
  rw [labelled, labelled, known, Option.getD_some, Option.getD_some]

private theorem additions_eq_empty_iff {notice : Notice} :
    additions notice = "" ↔ ∀ code ∈ additionalFields, notice.field? code = none := by
  have each (text? : Option String) (show' : String → String) (some : ∀ text, show' text ≠ "") :
      (text?.map show').getD "" = "" ↔ text? = none := by
    cases text? with
    | none => exact iff_of_true rfl rfl
    | some text => exact iff_of_false (some text) nofun
  simp only [additions, String.append_eq_empty_iff, additionalFields, List.forall_mem_cons]
  rw [each _ _ (by simp), each _ _ (by simp), each _ _ (by simp)]
  simp [Notice.code?, Notice.detail?, Notice.hint?, and_assoc]

/-- One text stands somewhere in another. -/
def Mentions (whole part : String) : Prop := part.toList <:+: whole.toList

theorem Mentions.refl (text : String) : Mentions text text := List.infix_refl _

private theorem Mentions.left {front part : String} (mentions : Mentions front part)
    (back : String) : Mentions (front ++ back) part := by
  rw [Mentions, String.toList_append]
  exact mentions.trans (List.prefix_append _ _).isInfix

private theorem Mentions.right {back part : String} (front : String)
    (mentions : Mentions back part) : Mentions (front ++ back) part := by
  rw [Mentions, String.toList_append]
  exact mentions.trans (List.suffix_append _ _).isInfix

private theorem labelled_mentions (label : String) (notice : Notice) :
    ∀ code ∈ additionalFields, ∀ text ∈ notice.field? code, Mentions (labelled label notice) text := by
  have shown (text : String) : Mentions text text := .refl text
  intro code member text found
  refine .right _ ?_
  simp only [additionalFields, List.mem_cons, List.not_mem_nil, or_false] at member
  unfold additions
  rcases member with rfl | rfl | rfl
  · rw [show notice.code? = some text from found]
    exact (((shown text).right " (").left ")").left _ |>.left _
  · rw [show notice.detail? = some text from found]
    exact (((shown text).right "\nDETAIL: ").right _).left _
  · rw [show notice.hint? = some text from found]
    exact ((shown text).right "\nHINT: ").right _

theorem report_display (report : ErrorReport) :
    report.display = if report.notice.severity? = none then "ERROR: " ++ report.notice.message?.getD ""
      else report.notice.display := by
  unfold ErrorReport.display
  cases report.notice.severity? <;> rfl

/-- Without a severity nothing is shown but what a notice would begin with. -/
private theorem labelled_of_no_severity {notice : Notice} (missing : notice.severity? = none) :
    labelled "ERROR" notice = "ERROR: " ++ notice.message?.getD "" ++ additions notice := by
  rw [labelled, missing]
  rfl

/-- A report reads as the notice with its fields, but for the label of a missing severity, exactly if
it has a severity or nothing to add to its message. -/
theorem report_reads_as_notice (fields : Fields) :
    let notice : Notice := ⟨fields⟩
    let report : ErrorReport := ⟨notice⟩
    notice.display = labelled "NOTICE" notice ∧
    (∀ code ∈ additionalFields, ∀ text ∈ notice.field? code, Mentions notice.display text) ∧
    (report.display = labelled "ERROR" notice ↔
      notice.severity? ≠ none ∨ ∀ code ∈ additionalFields, notice.field? code = none) ∧
    (notice.severity? ≠ none → report.display = notice.display) ∧
    (notice.severity? = none → report.display = "ERROR: " ++ notice.message?.getD "") := by
  intro notice report
  refine ⟨display_labelled notice, ?_, ?_, ?_, ?_⟩
  · rw [display_labelled]
    exact labelled_mentions "NOTICE" notice
  · rw [report_display]
    by_cases missing : notice.severity? = none
    · rw [if_pos missing, labelled_of_no_severity missing, eq_comm, String.append_eq_left_iff,
        additions_eq_empty_iff]
      exact ⟨.inr, fun agrees => agrees.resolve_left (absurd missing)⟩
    · rw [if_neg missing, display_labelled]
      exact iff_of_true (labelled_of_severity missing ..) (.inl missing)
  · intro known
    rw [report_display, if_neg known]
  · intro missing
    rw [report_display, if_pos missing]

private def severityless : Fields :=
  .ofList [('C'.toUInt8, "42P01"), ('M'.toUInt8, "relation missing"), ('H'.toUInt8, "create it")]

/-- A report of a server that omits the severity. -/
theorem report_reads_as_notice_severityless :
    (Notice.mk severityless).severity? = none ∧
      (ErrorReport.mk ⟨severityless⟩).display = "ERROR: relation missing" := by
  have missing : (Notice.mk severityless).severity? = none := by decide +kernel
  exact ⟨missing, (report_reads_as_notice severityless).2.2.2.2 missing⟩

/-- The code that a notice with the same fields shows is not in the text of the report. -/
theorem report_drops_code : ¬ ∀ fields : Fields,
    (ErrorReport.mk ⟨fields⟩).display = labelled "ERROR" ⟨fields⟩ := by
  intro agrees
  have same := agrees severityless
  revert same
  decide +kernel

end PgSession.Proofs
