import StyleAudit.Proofs.Report.MarkupReader

/-!
# Mails as they are read

Reports are arbitrary texts in places: the name of a file is, and the message of a failure may be
the output of another program.  The tags of a mail do not depend on either, nor those of a page on
its title (`Markup.tags_page`, `Report.SameOutcome.tags_mailBody`), and a reader gets these texts
back character by character.  `Report.mailBody_uninjected` says both.
-/

namespace StyleAudit

namespace Markup

variable {e : Entities} {name tag : String} {attributes : List (String × String)}
  {texts : List (List Char)}

/-! ### The frame of a mail -/

/-- The names of the tags around all texts of reports. -/
def frameNames : List String :=
  ["!DOCTYPE", "html", "head", "meta", "title", "style", "body", "table", "thead", "tbody", "tr",
    "th", "td", "p", "u", "b", "ul"]

/-- The name of elements that are not of the frame. -/
def Inner (name : String) : Prop := IsName name ∧ name ∉ frameNames

instance (name : String) : Decidable (Inner name) := inferInstanceAs (Decidable (_ ∧ _))

theorem isName_of_mem_frameNames : ∀ tag ∈ frameNames, IsName tag := by decide

theorem Inner.ne (h : Inner name) (htag : tag ∈ frameNames) : tag ≠ name := by
  rintro rfl
  exact h.2 htag

theorem Inner.finds_opening (h : Inner name) (htag : tag ∈ frameNames)
    (attributes : List (String × String)) : Finds e name [.tag (tagBody tag attributes)] [] :=
  Markup.finds_opening (isName_of_mem_frameNames tag htag) (h.ne htag) attributes

theorem Inner.finds_element (h : Inner name) (htag : tag ∈ frameNames) {content : List Markup}
    (hcontent : Finds e name (tokensAll content) texts) :
    Finds e name (tokens (.element tag attributes content)) texts :=
  hcontent.element h.1 (isName_of_mem_frameNames tag htag) (h.ne htag)

theorem Inner.finds_text (h : Inner name) (htag : tag ∈ frameNames) (s : String) :
    Finds e name (tokens (.element tag attributes [.text s])) [] :=
  h.finds_element htag (finds_nil.text_cons s)

/-! ### Tables of counts -/

theorem proper_countRow (label : String) (n : Nat) : Proper (countRow label n) :=
  proper_plain (by decide) ⟨⟨properTag_cell _ _, trivial, trivial⟩,
    ⟨properTag_cell _ _, trivial, trivial⟩, trivial⟩

/-- The row of the headings of a table. -/
def headingRow (first second : String) : Markup :=
  plain "tr"
    [.element "th" [("style", headingStyle)] [.text first],
      .element "th" [("style", headingStyle)] [.text second]]

theorem proper_countTable (first second : String) (rows : List (String × Nat)) :
    Proper (countTable first second rows) := by
  have hth (s : String) : Proper (.element "th" [("style", headingStyle)] [.text s]) :=
    ⟨properTag_styled (by decide) _, trivial, trivial⟩
  have hheading : Proper (headingRow first second) :=
    proper_plain (by decide) ⟨hth first, hth second, trivial⟩
  have hrows : ProperAll (rows.map fun r => countRow r.1 r.2) :=
    properAll_iff.2 (List.forall_mem_map.2 fun r _ => proper_countRow r.1 r.2)
  exact ⟨properTag_styled (by decide) _, proper_plain (by decide) ⟨hheading, trivial⟩,
    proper_plain (by decide) hrows, trivial⟩

/-- A table of counts has no elements beside those of the frame. -/
theorem Inner.finds_countTable (h : Inner name) (first second : String)
    (rows : List (String × Nat)) : Finds e name (tokens (countTable first second rows)) [] := by
  have hheading : Finds e name (tokens (headingRow first second)) [] :=
    h.finds_element (by decide) ((h.finds_text (by decide) first).cons
      ((h.finds_text (by decide) second).cons finds_nil))
  have hrow (r : String × Nat) : Finds e name (tokens (countRow r.1 r.2)) [] :=
    h.finds_element (by decide) ((h.finds_text (by decide) _).cons
      ((h.finds_text (by decide) _).cons finds_nil))
  have hrows : Finds e name (tokensAll (rows.map fun r => countRow r.1 r.2)) [] := by
    have hmap := finds_map fun r (_ : r ∈ rows) => hrow r
    rwa [List.flatMap_eq_nil_iff.2 fun _ _ => rfl] at hmap
  exact h.finds_element (by decide)
    ((h.finds_element (by decide) (hheading.cons finds_nil)).cons
      ((h.finds_element (by decide) hrows).cons finds_nil))

/-! ### Pages -/

/-- What stands before the title of a page. -/
def preamble : List Token :=
  [.tag "!DOCTYPE html".toList] ++ ([.tag (tagBody "html" [("lang", "en")])] ++
    ([.tag (tagBody "head" [])] ++ [.tag (tagBody "meta" [("charset", "UTF-8")])]))

/-- What stands behind the title of a page. -/
def behindTitle (body : List Markup) : List Char :=
  closing "title" ++ (write (plain "style" [.raw styleSheet]) ++
    (closing "head" ++ (write (plain "body" body) ++ closing "html")))

theorem toList_page (title : String) (body : List Markup) :
    (page title body).toList =
      '<' :: "!DOCTYPE html".toList ++ '>' :: (opening "html" [("lang", "en")] ++
        (opening "head" [] ++ (opening "meta" [("charset", "UTF-8")] ++
          (opening "title" [] ++ (escape title ++ behindTitle body))))) := by
  have hdoctype : "<!DOCTYPE html>".toList = '<' :: "!DOCTYPE html".toList ++ ['>'] := rfl
  -- the title is the first text, so that all markup before it is fixed
  unfold page
  rw [String.toList_ofList, hdoctype]
  simp [write, writeAll, plain, behindTitle]

/-- **The title of a page is read as characters**, whatever the body is. -/
theorem read_page (title : String) (body : List Markup) :
    read (page title body).toList =
      preamble ++ .tag (tagBody "title" []) ::
        (chars (escape title) ++ read (behindTitle body)) := by
  have hhtml : ProperTag "html" [("lang", "en")] := ⟨by decide, by decide⟩
  have hmeta : ProperTag "meta" [("charset", "UTF-8")] := ⟨by decide, by decide⟩
  rw [toList_page, read_tag (by decide), hhtml.read_opening,
    (properTag_plain (by decide)).read_opening, hmeta.read_opening,
    (properTag_plain (by decide)).read_opening, read_escape]
  rfl

/-- The title of a page makes no difference to its tags. -/
theorem tags_page (title : String) (body : List Markup) :
    tags (page title body) =
      tagsOf preamble ++ tagBody "title" [] :: tagsOf (read (behindTitle body)) := by
  rw [tags, read_page, tagsOf_append, tagsOf_cons_tag, tagsOf_append, tagsOf_chars, List.nil_append]

theorem notMem_styleRule {selector : String} {declarations : List String}
    (hselector : '<' ∉ selector.toList) (h : ∀ d ∈ declarations, '<' ∉ d.toList) :
    '<' ∉ (styleRule selector declarations).toList := by
  have hopen : '<' ∉ " \x7b\n".toList := by decide
  have hclose : '<' ∉ "\x7d\n".toList := by decide
  have hindent : '<' ∉ "    ".toList := by decide
  have hend : '<' ∉ ";\n".toList := by decide
  simp only [styleRule, String.toList_append, String.toList_join, List.flatMap_map, List.mem_append,
    List.mem_flatMap, not_or, not_exists, not_and]
  exact ⟨⟨⟨hselector, hopen⟩, fun d hd => ⟨⟨hindent, h d hd⟩, hend⟩⟩, hclose⟩

/-- No tag starts in the style sheet. -/
theorem notMem_styleSheet : '<' ∉ styleSheet.toList := by
  have hfirst : '<' ∉ "\n".toList := by decide
  have hfonts : '<' ∉ ("font-family: -apple-system, BlinkMacSystemFont, \"Segoe UI\", " ++
      "Roboto, Helvetica, Arial, sans-serif").toList := by
    rw [String.toList_append]
    decide
  unfold styleSheet
  rw [String.toList_append, String.toList_join]
  refine List.not_mem_append hfirst fun hmem => ?_
  obtain ⟨rule, hrule, hmem⟩ := List.mem_flatMap.1 hmem
  refine absurd hmem ?_
  simp only [List.mem_cons, List.not_mem_nil, or_false] at hrule
  rcases hrule with rfl | rfl | rfl | rfl | rfl | rfl | rfl
  · -- the list of fonts is written in two parts
    exact notMem_styleRule (by decide) (List.forall_mem_cons.2 ⟨hfonts, by decide⟩)
  all_goals exact notMem_styleRule (by decide) (by decide)

/-- The title is found in a page before anything else of its name. -/
theorem textsOf_title (e : Entities) (title : String) (body : List Markup) :
    textsOf e "title" (page title body) =
      title.toList :: textsIn e "title" (read (behindTitle body)) := by
  have hpreamble : Finds e "title" preamble [] :=
    (finds_tag (by decide)).append ((finds_tag (by decide)).append
      ((finds_tag (by decide)).append (finds_tag (by decide))))
  have hbehind : read (behindTitle body) = .tag (closingBody "title") :: _ :=
    (properTag_plain (by decide)).read_closing _
  have htext : textBehind (chars (escape title) ++ read (behindTitle body)) = escape title := by
    rw [hbehind, textBehind_chars]
  rw [textsOf, read_page, hpreamble, List.nil_append, textsIn,
    if_pos (tagName_tagBody (by decide) []), htext, e.decode_escape, finds_chars, List.nil_append]

/-- What is read behind the title of a page whose body is proper. -/
theorem read_behindTitle {body : List Markup} (h : ProperAll body) :
    read (behindTitle body) =
      [.tag (closingBody "title")] ++ (tokens (plain "style" [.raw styleSheet]) ++
        ([.tag (closingBody "head")] ++ (tokens (plain "body" body) ++
          [.tag (closingBody "html")]))) := by
  have hstyle : Proper (plain "style" [.raw styleSheet]) :=
    proper_plain (by decide) ⟨notMem_styleSheet, trivial⟩
  have hbody : Proper (plain "body" body) := proper_plain (by decide) h
  have hend := (properTag_plain (by decide : '>' ∉ "html".toList)).read_closing []
  rw [List.append_nil] at hend
  rw [behindTitle, (properTag_plain (by decide)).read_closing, read_write _ hstyle,
    (properTag_plain (by decide)).read_closing, read_write _ hbody, hend]
  rfl

/-- Beside the frame nothing is found in a page but what is found in its body. -/
theorem Inner.textsOf_page (h : Inner name) {body : List Markup} (hbody : ProperAll body)
    (hfound : Finds e name (tokensAll body) texts) (title : String) :
    textsOf e name (page title body) = texts := by
  have hdoctype : Finds e name [.tag "!DOCTYPE html".toList] [] := by
    refine finds_tag ?_
    rw [show tagName "!DOCTYPE html".toList = "!DOCTYPE".toList by decide]
    exact fun heq => h.ne (by decide) (String.toList_injective heq)
  have hfront : Finds e name preamble [] := hdoctype.append ((h.finds_opening (by decide) _).append
    ((h.finds_opening (by decide) _).append (h.finds_opening (by decide) _)))
  have hstyle : Finds e name (tokens (plain "style" [.raw styleSheet])) [] :=
    h.finds_element (by decide) ((finds_chars styleSheet.toList).append finds_nil)
  have hcontent : Finds e name (tokens (plain "body" body)) texts :=
    h.finds_element (by decide) hfound
  have hback := (finds_closing h.1 "title").append (hstyle.append
    ((finds_closing h.1 "head").append (hcontent.append (finds_closing h.1 "html"))))
  have hall := hfront.append ((h.finds_opening (by decide : "title" ∈ frameNames) []).append
    ((finds_chars (escape title)).append hback)) []
  rw [List.append_nil] at hall
  rw [textsOf, read_page, read_behindTitle hbody]
  simpa [textsIn] using hall

end Markup

namespace Report

open Markup

variable {a b report : Report}

/-! ### The mail -/

/-- The name of the file, as a text. -/
def fileText (report : Report) : String := String.ofList (report.path.fileName?.getD [])

/-- What the mail says before its tables. -/
def greeting (report : Report) : List Markup :=
  [plain "p"
      [.text "Please find attached the log file for the script analysis of ",
        plain "strong" [.text report.fileText], .text "."],
    plain "p" [plain "u" [plain "b" [.text "Summary:"]]]]

/-- What the mail says at its end. -/
def farewell : List Markup :=
  [plain "p" [.text "Please refer to the attached log for the detailed analysis."],
    plain "p" [.text "Regards"]]

/-- The line of a failed check. -/
def failureItem (f : RuleFailure) : Markup :=
  plain "li" [.text f.rule.title, .text ": ", .text f.message]

/-- What the mail says. -/
def mailContent (report : Report) : List Markup :=
  report.greeting ++ ([report.levelMarkup, report.ruleMarkup] ++ (report.failureMarkup ++ farewell))

theorem mailBody_eq (report : Report) :
    report.mailBody = page "Script Analysis Log" report.mailContent := by
  unfold mailBody mailContent greeting farewell fileText
  simp only [List.cons_append, List.nil_append]

theorem failureMarkup_eq (report : Report) :
    report.failureMarkup = if report.failures = [] then [] else
      [plain "p" [.text "The following checks could not be completed:"],
        plain "ul" (report.failures.map failureItem)] := by
  unfold failureMarkup
  exact if_congr List.isEmpty_iff rfl rfl

theorem properAll_failureItems (failures : List RuleFailure) :
    ProperAll (failures.map failureItem) :=
  properAll_iff.2 (List.forall_mem_map.2 fun _ _ =>
    proper_plain (by decide) ⟨trivial, trivial, trivial, trivial⟩)

theorem properAll_mailContent (report : Report) : ProperAll report.mailContent := by
  have hgreeting : ProperAll report.greeting := by
    have hname := proper_plain_text (by decide : '>' ∉ "strong".toList) report.fileText
    have hsummary : Proper (plain "u" [plain "b" [.text "Summary:"]]) :=
      proper_plain (by decide) ⟨proper_plain_text (by decide) _, trivial⟩
    exact ⟨proper_plain (by decide) ⟨trivial, hname, trivial, trivial⟩,
      proper_plain (by decide) ⟨hsummary, trivial⟩, trivial⟩
  have htables : ProperAll [report.levelMarkup, report.ruleMarkup] :=
    ⟨proper_countTable _ _ _, proper_countTable _ _ _, trivial⟩
  have hfailures : ProperAll report.failureMarkup := by
    rw [failureMarkup_eq]
    split
    · trivial
    · exact ⟨proper_plain_text (by decide) _, proper_plain (by decide) (properAll_failureItems _),
        trivial⟩
  have hfarewell : ProperAll farewell :=
    ⟨proper_plain_text (by decide) _, proper_plain_text (by decide) _, trivial⟩
  rw [properAll_iff] at *
  exact List.forall_mem_append.2 ⟨hgreeting, List.forall_mem_append.2
    ⟨htables, List.forall_mem_append.2 ⟨hfailures, hfarewell⟩⟩⟩

/-! ### Tags -/

/-- Reports with the same counts and the same failed rules. -/
structure SameOutcome (a b : Report) : Prop where
  /-- Each rule has the same count. -/
  counts : ∀ r, a.count r = b.count r
  /-- There are as many findings of each severity. -/
  severities : ∀ s, a.countSeverity s = b.countSeverity s
  /-- The same rules failed, in the same order. -/
  failed : a.failures.map (·.rule) = b.failures.map (·.rule)

theorem tagsOf_failureItems (failures : List RuleFailure) :
    tagsOf (tokensAll (failures.map failureItem)) =
      (failures.map (·.rule)).flatMap fun _ => [tagBody "li" [], closingBody "li"] := by
  induction failures with
  | nil => rfl
  | cons f failures ih =>
    rw [List.map_cons, tokensAll, tagsOf_append, ih]
    simp [failureItem, plain, tokens, tokensAll]

/-- The tags of the failures depend on the failed rules only. -/
theorem tagsOf_failureMarkup (report : Report) :
    tagsOf (tokensAll report.failureMarkup) =
      if report.failures.map (·.rule) = [] then [] else
        [tagBody "p" [], closingBody "p", tagBody "ul" []] ++
          ((report.failures.map (·.rule)).flatMap fun _ => [tagBody "li" [], closingBody "li"]) ++
          [closingBody "ul"] := by
  rw [failureMarkup_eq]
  by_cases h : report.failures = []
  · simp [h, tokensAll, tagsOf]
  · have hmap : report.failures.map (·.rule) ≠ [] := mt List.map_eq_nil_iff.1 h
    rw [if_neg h, if_neg hmap]
    simp [plain, tokens, tokensAll, tagsOf_failureItems]

theorem SameOutcome.tagsOf_mailContent (h : SameOutcome a b) :
    tagsOf (tokensAll a.mailContent) = tagsOf (tokensAll b.mailContent) := by
  -- both tables are the same; what stands around them differs in texts only
  have hlength : a.failures.length = b.failures.length := by
    simpa using congrArg List.length h.failed
  have hlevels : a.levelMarkup = b.levelMarkup := by
    rw [levelMarkup, levelCounts, h.severities, h.severities, hlength]
    rfl
  have hrules : a.ruleMarkup = b.ruleMarkup := by
    rw [ruleMarkup, ruleCounts, List.map_congr_left fun r _ => by rw [h.counts r]]
    rfl
  have hgreeting : tagsOf (tokensAll a.greeting) = tagsOf (tokensAll b.greeting) := by
    simp [greeting, plain, tokens, tokensAll]
  have hfailures : tagsOf (tokensAll a.failureMarkup) = tagsOf (tokensAll b.failureMarkup) := by
    rw [tagsOf_failureMarkup, tagsOf_failureMarkup, h.failed]
  rw [mailContent, mailContent]
  simp only [tokensAll_append, tagsOf_append, hlevels, hrules, hgreeting, hfailures]

theorem SameOutcome.tags_mailBody (h : SameOutcome a b) : tags a.mailBody = tags b.mailBody := by
  have hbody : tagsOf (tokens (plain "body" a.mailContent)) =
      tagsOf (tokens (plain "body" b.mailContent)) := by
    simp [plain, tokens, h.tagsOf_mailContent]
  rw [mailBody_eq, mailBody_eq, tags_page, tags_page, read_behindTitle a.properAll_mailContent,
    read_behindTitle b.properAll_mailContent]
  simp only [tagsOf_append, hbody]

/-! ### Texts -/

variable {e : Entities} {name : String} {texts : List (List Char)}

/-- What is found in a mail is what is found around the name and the messages. -/
theorem finds_mailContent (h : Inner name) {found : RuleFailure → List (List Char)}
    (hfile : Finds e name (tokens (plain "strong" [.text report.fileText])) texts)
    (hfailures : ∀ f ∈ report.failures, Finds e name (tokens (failureItem f)) (found f)) :
    Finds e name (tokensAll report.mailContent) (texts ++ report.failures.flatMap found) := by
  have hp : "p" ∈ frameNames := by decide
  have hgreeting : Finds e name (tokensAll report.greeting) texts := by
    have hline := (hfile.cons (finds_nil.text_cons ".")).text_cons
      "Please find attached the log file for the script analysis of "
    have hsummary : Finds e name (tokens (plain "u" [plain "b" [.text "Summary:"]])) [] :=
      h.finds_element (by decide) ((h.finds_text (by decide) _).cons finds_nil)
    have hlines : Finds e name (tokensAll report.greeting) (texts ++ [] ++ ([] ++ [])) :=
      (h.finds_element hp hline).cons
        ((h.finds_element hp (hsummary.cons finds_nil)).cons finds_nil)
    rwa [List.append_nil, List.append_nil, List.append_nil] at hlines
  have htables : Finds e name (tokensAll [report.levelMarkup, report.ruleMarkup]) [] :=
    (h.finds_countTable _ _ _).cons ((h.finds_countTable _ _ _).cons finds_nil)
  have hlist : Finds e name (tokensAll report.failureMarkup) (report.failures.flatMap found) := by
    rw [failureMarkup_eq]
    by_cases hnil : report.failures = []
    · rw [if_pos hnil, hnil]
      exact finds_nil
    · rw [if_neg hnil]
      have hheading : Finds e name (tokens (plain "p"
          [.text "The following checks could not be completed:"])) [] := h.finds_text hp _
      have hitems : Finds e name (tokens (plain "ul" (report.failures.map failureItem)))
          (report.failures.flatMap found) := h.finds_element (by decide) (finds_map hfailures)
      have hboth := hheading.cons (hitems.cons finds_nil)
      rwa [List.nil_append, List.append_nil] at hboth
  have hfarewell : Finds e name (tokensAll farewell) [] :=
    (h.finds_text hp _).cons ((h.finds_text hp _).cons finds_nil)
  have hall := hgreeting.append (htables.append (hlist.append hfarewell))
  rw [List.nil_append, List.append_nil] at hall
  rwa [mailContent, tokensAll_append, tokensAll_append, tokensAll_append]

/-- The only emphasised text of a mail is the name of the file. -/
theorem textsOf_strong (e : Entities) (report : Report) :
    textsOf e "strong" report.mailBody = [report.path.fileName?.getD []] := by
  have hinner : Inner "strong" := by decide
  have hfile : Finds e "strong" (tokens (plain "strong" [.text report.fileText]))
      [report.fileText.toList] := finds_text hinner.1 (List.append_nil _)
  have hfailures : ∀ f ∈ report.failures, Finds e "strong" (tokens (failureItem f)) [] := by
    intro f _
    exact (((finds_nil.text_cons f.message).text_cons ": ").text_cons f.rule.title).element
      hinner.1 (by decide) (by decide)
  have hcontent := finds_mailContent hinner hfile hfailures
  rw [List.flatMap_eq_nil_iff.2 fun _ _ => rfl, List.append_nil, fileText,
    String.toList_ofList] at hcontent
  rw [mailBody_eq, hinner.textsOf_page report.properAll_mailContent hcontent]

/-- The items of a mail are the failures with the titles of their rules. -/
theorem textsOf_li (e : Entities) (report : Report) :
    textsOf e "li" report.mailBody =
      report.failures.map fun f => (f.rule.title ++ ": " ++ f.message).toList := by
  have hinner : Inner "li" := by decide
  have hfile : Finds e "li" (tokens (plain "strong" [.text report.fileText])) [] :=
    (finds_nil.text_cons _).element hinner.1 (by decide) (by decide)
  have hfailures : ∀ f ∈ report.failures, Finds e "li" (tokens (failureItem f))
      [(f.rule.title ++ ": " ++ f.message).toList] := by
    intro f _
    refine finds_text hinner.1 ?_
    simp [tokensAll, tokens, chars, escape_append]
  have hcontent := finds_mailContent hinner hfile hfailures
  rw [List.nil_append, ← List.map_eq_flatMap] at hcontent
  rw [mailBody_eq, hinner.textsOf_page report.properAll_mailContent hcontent]

/-! ### Both -/

/-- **Nothing in a report can change the markup of its mail.**  The tags depend on the counts and
the failed rules only.  The name of the file and the messages of failures are read back, whatever
they are.  The title of a page does not change its tags either, and is read back. -/
theorem mailBody_uninjected (e : Entities) (report : Report) :
    (∀ other, SameOutcome report other → tags report.mailBody = tags other.mailBody) ∧
    textsOf e "strong" report.mailBody = [report.path.fileName?.getD []] ∧
    textsOf e "li" report.mailBody =
      (report.failures.map fun f => (f.rule.title ++ ": " ++ f.message).toList) ∧
    ∀ title body, (∀ title', tags (page title body) = tags (page title' body)) ∧
      (textsOf e "title" (page title body)).head? = some title.toList := by
  refine ⟨fun other h => h.tags_mailBody, textsOf_strong e report, textsOf_li e report, ?_⟩
  intro title body
  refine ⟨fun title' => ?_, ?_⟩
  · rw [tags_page, tags_page]
  · rw [textsOf_title]
    rfl

/-- A report whose name and message look like markup. -/
def hostile : Report :=
  { path := ⟨"src/<b>&amp;.c"⟩
    failures := [⟨.memoryLeak, "cc: </li><script>\"&lt;\"</script>"⟩] }

/-- A report with the same outcome. -/
def harmless : Report :=
  { path := ⟨"main.c"⟩
    failures := [⟨.memoryLeak, "No compiler"⟩] }

/-- Both mails have the same tags, and the text that looks like markup is read back. -/
theorem mailBody_uninjected_hostile :
    SameOutcome hostile harmless ∧ tags hostile.mailBody = tags harmless.mailBody ∧
    textsOf .basic "strong" hostile.mailBody = ["<b>&amp;.c".toList] ∧
    textsOf .basic "li" hostile.mailBody =
      ["Memory Leak Detection: cc: </li><script>\"&lt;\"</script>".toList] := by
  have hsame : SameOutcome hostile harmless := ⟨fun _ => rfl, fun _ => rfl, rfl⟩
  obtain ⟨htags, hname, hmessages, -⟩ := mailBody_uninjected .basic hostile
  refine ⟨hsame, htags harmless hsame, ?_, ?_⟩
  · rw [hname]
    decide
  · rw [hmessages]
    decide

end Report

end StyleAudit
