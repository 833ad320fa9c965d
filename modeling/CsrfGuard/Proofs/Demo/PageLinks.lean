import CsrfGuard.Demo.Page
import CsrfGuard.Proofs.Text.MarkupReader

/-!
# What can be read off the pages of the demonstration site

What the template of a page was filled in with can be read off the page. Whoever goes through its
text finds the links and the form that the page has, with the URLs that were put into them and the
methods by which they are followed (`targets_render`). The page after a transfer shows the amount as
it was posted (`texts_render_done`), and the list of transfers has one item for each, in their order
(`texts_render_history`).
-/

namespace CsrfGuard.Demo.Page

open Text.Markup

/-! ## Tags -/

def linkTag (url : String) : List Char := quotedTag "a href=" url

def formTag (url : String) : List Char := quotedTag "form method=\"post\" action=" url

theorem not_mem_linkTag (url : String) : ∀ bracket ∈ brackets, bracket ∉ linkTag url :=
  not_mem_quotedTag (by simp [brackets]) url

theorem not_mem_formTag (url : String) : ∀ bracket ∈ brackets, bracket ∉ formTag url :=
  not_mem_quotedTag (by simp [brackets]) url

theorem target?_linkTag (url : String) : target? (linkTag url) = some ("GET", url) := by
  have hvalues : attributes (Text.pieces '"' (linkTag url)) = [("href", url)] := by
    rw [linkTag, pieces_quotedTag]
    change [("href", String.ofList (unescape (escape url).toList))] = _
    rw [unescape_escape, String.ofList_toList]
  unfold target?
  rw [hvalues]
  rfl

theorem target?_formTag (url : String) : target? (formTag url) = some ("POST", url) := by
  have hvalues : attributes (Text.pieces '"' (formTag url)) =
      [("method", "post"), ("action", url)] := by
    rw [formTag, pieces_quotedTag]
    change [("method", "post"), ("action", String.ofList (unescape (escape url).toList))] = _
    rw [unescape_escape, String.ofList_toList]
  have hcapitals : Text.inCapitals "post" = "POST" := by decide +kernel
  unfold target?
  rw [hvalues]
  change some (Text.inCapitals "post", url) = _
  rw [hcapitals]

/-! ## Parts of pages -/

theorem targetsIn_anchor {caption : String} (hcaption : IsPlain (caption.toList ++ "</a>".toList))
    (url : String) : targetsIn (anchor url caption).toList = [("GET", url)] := by
  have hwritten : (anchor url caption).toList =
      '<' :: (linkTag url ++ '>' :: (caption.toList ++ "</a>".toList)) := by
    simp [anchor, linkTag, quotedTag]
  have hinside : '>' ∉ linkTag url := not_mem_linkTag url _ (by decide)
  rw [hwritten, targetsIn_tag hinside (target?_linkTag url), hcaption.2]

theorem not_mem_toString {c : Char} (hc : c.isDigit = false) (number : Nat) :
    c ∉ (toString number).toList := by
  intro hmem
  rw [Nat.toString_eq_repr, Nat.toList_repr] at hmem
  have hdigit := Nat.isDigit_of_mem_toDigits (by decide) (by decide) hmem
  rw [hc] at hdigit
  cases hdigit

theorem isPlain_listEntry (amount : Nat) : IsPlain (listEntry amount).toList := by
  have hdigits : '<' ∉ (toString amount).toList := not_mem_toString (by decide) amount
  have hstart : IsPlain "<li>".toList := by decide +kernel
  have hend : IsPlain "</li>".toList := by decide +kernel
  rw [listEntry, String.toList_append, String.toList_append]
  exact (hstart.append (isPlain_of_not_mem hdigits)).append hend

theorem isPlain_entries (amounts : List Nat) :
    IsPlain (String.join (amounts.map listEntry)).toList := by
  rw [String.toList_join]
  induction amounts with
  | nil => exact ⟨rfl, rfl⟩
  | cons amount rest ih => exact (isPlain_listEntry amount).append ih

/-! ## Pages -/

/-- What stands before the transfer form, and what stands in it and behind it. -/
def beforeForm : String := opening ++ "<h1>Transfer</h1>\n"

def insideForm : String :=
  "\n  <input name=\"amount\" value=\"10\">\n  <button type=\"submit\">Send</button>\n</form>\n"

/-- The links and the form of a page can be read off its text. -/
theorem targets_render (page : Page) : Text.Markup.targets page.render = page.targets := by
  unfold Text.Markup.targets
  cases page with
  | index transferUrl historyUrl =>
      have hwritten : (index transferUrl historyUrl).render.toList =
          beforeForm.toList ++ '<' :: (formTag transferUrl ++ '>' ::
            (insideForm.toList ++ (anchor historyUrl "History").toList)) := by
        simp [render, formTag, quotedTag, beforeForm, insideForm]
      have hbefore : IsPlain beforeForm.toList := by decide +kernel
      have hform : '>' ∉ formTag transferUrl := not_mem_formTag transferUrl _ (by decide)
      have hinside : IsPlain insideForm.toList := by decide +kernel
      rw [hwritten, targetsIn_append hbefore, targetsIn_tag hform (target?_formTag transferUrl),
        targetsIn_append hinside, targetsIn_anchor (by decide +kernel)]
      rfl
  | done amount backUrl =>
      have hwritten : (done amount backUrl).render.toList =
          (opening ++ "<p>Sent ").toList ++ ((escape amount).toList ++
            (".</p>\n".toList ++ (anchor backUrl "Back").toList)) := by
        simp [render]
      have hopening : IsPlain (opening ++ "<p>Sent ").toList := by decide +kernel
      have hamount := isPlain_of_not_mem (not_mem_escape (show '<' ∈ marks by decide) amount)
      have hend : IsPlain ".</p>\n".toList := by decide +kernel
      rw [hwritten, targetsIn_append hopening, targetsIn_append hamount, targetsIn_append hend,
        targetsIn_anchor (by decide +kernel)]
      rfl
  | history amounts backUrl =>
      have hwritten : (history amounts backUrl).render.toList =
          (opening ++ "<ul>\n").toList ++ ((String.join (amounts.map listEntry)).toList ++
            ("\n</ul>\n".toList ++ (anchor backUrl "Back").toList)) := by
        simp [render]
      have hopening : IsPlain (opening ++ "<ul>\n").toList := by decide +kernel
      have hend : IsPlain "\n</ul>\n".toList := by decide +kernel
      rw [hwritten, targetsIn_append hopening, targetsIn_append (isPlain_entries amounts),
        targetsIn_append hend, targetsIn_anchor (by decide +kernel)]
      rfl

/-! ## What is shown -/

variable {name : String}

theorem textsIn_anchor {caption : String} (hlink : "a" ≠ name) (hend : "/a" ≠ name)
    (hcaption : '<' ∉ caption.toList) (url : String) :
    textsIn name (anchor url caption).toList = [] := by
  have hwritten : (anchor url caption).toList =
      '<' :: (linkTag url ++ '>' :: (caption.toList ++ '<' :: ("/a".toList ++ '>' :: []))) := by
    simp [anchor, linkTag, quotedTag]
  have hlinkTag : tagName (linkTag url) ≠ name := hlink
  have hendTag : tagName "/a".toList ≠ name := hend
  rw [hwritten, textsIn_tag_of_ne (not_mem_linkTag url) hlinkTag,
    textsIn_append_of_not_mem hcaption, textsIn_tag_of_ne (by simp [brackets]) hendTag]
  rfl

/-- What follows the part that a page is about: the end of that part, and the link back. -/
def backFrom (part url : String) : List Char :=
  '<' :: (part.toList ++ '>' :: ("\n".toList ++ (anchor url "Back").toList))

theorem textsIn_backFrom {part : String} (hlink : "a" ≠ name) (hend : "/a" ≠ name)
    (hpart : ∀ bracket ∈ brackets, bracket ∉ part.toList) (hname : tagName part.toList ≠ name)
    (url : String) : textsIn name (backFrom part url) = [] := by
  rw [backFrom, textsIn_tag_of_ne hpart hname, textsIn_append_of_not_mem (by simp)]
  exact textsIn_anchor hlink hend (by simp) url

/-- The page after a transfer shows the amount as it was posted, in its only paragraph. -/
theorem texts_render_done (amount backUrl : String) :
    texts "p" (done amount backUrl).render = ["Sent " ++ amount ++ "."] := by
  let shown := "Sent ".toList ++ ((escape amount).toList ++ ".".toList)
  have hwritten : (done amount backUrl).render.toList =
      opening.toList ++ '<' :: ("p".toList ++ '>' :: (shown ++ backFrom "/p" backUrl)) := by
    simp [render, shown, backFrom]
  have hopening : textsIn "p" opening.toList = [] := by decide +kernel
  have hshown : '<' ∉ shown := by
    have hamount := not_mem_escape (show '<' ∈ marks by decide) amount
    simp [shown, hamount]
  have hread : unescape shown = ("Sent " ++ amount ++ ".").toList := by
    rw [unescape_append_of_not_mem (by simp), unescape_escape_append]
    simp [unescape]
  have hback : textsIn "p" (backFrom "/p" backUrl) = [] :=
    textsIn_backFrom (by decide) (by decide) (by simp [brackets]) (by decide) backUrl
  calc texts "p" (done amount backUrl).render
      = textsIn "p" ('<' :: ("p".toList ++ '>' :: (shown ++ backFrom "/p" backUrl))) := by
        rw [texts, hwritten, textsIn_append_tag, hopening, List.nil_append]
    _ = String.ofList (unescape shown) :: textsIn "p" (backFrom "/p" backUrl) :=
        textsIn_tag_of_eq (by simp [brackets]) (by decide) hshown _
    _ = ["Sent " ++ amount ++ "."] := by rw [hback, hread, String.ofList_toList]

theorem textsIn_listEntry (amount : Nat) (back : List Char) :
    textsIn "li" ((listEntry amount).toList ++ back) = toString amount :: textsIn "li" back := by
  have hwritten : (listEntry amount).toList ++ back =
      '<' :: ("li".toList ++ '>' :: ((toString amount).toList ++
        '<' :: ("/li".toList ++ '>' :: back))) := by
    simp [listEntry]
  have hshown : '<' ∉ (toString amount).toList := not_mem_toString (by decide) amount
  have hread : unescape (toString amount).toList = (toString amount).toList := by
    have hwhole := unescape_append_of_not_mem (not_mem_toString (by decide) amount) []
    rwa [List.append_nil, unescape, List.append_nil] at hwhole
  calc textsIn "li" ((listEntry amount).toList ++ back)
      = String.ofList (unescape (toString amount).toList) ::
          textsIn "li" ('<' :: ("/li".toList ++ '>' :: back)) := by
        rw [hwritten, textsIn_tag_of_eq (by simp [brackets]) (by decide) hshown]
    _ = toString amount :: textsIn "li" back := by
        rw [hread, String.ofList_toList, textsIn_tag_of_ne (by simp [brackets]) (by decide)]

theorem textsIn_entries (amounts : List Nat) (back : List Char) :
    textsIn "li" ((String.join (amounts.map listEntry)).toList ++ back) =
      amounts.map toString ++ textsIn "li" back := by
  rw [String.toList_join]
  induction amounts with
  | nil => rfl
  | cons amount rest ih =>
      rw [List.map_cons, List.flatMap_cons, List.append_assoc, textsIn_listEntry, ih]
      rfl

/-- The list of transfers shows one item for each amount, in their order. -/
theorem texts_render_history (amounts : List Nat) (backUrl : String) :
    texts "li" (history amounts backUrl).render = amounts.map toString := by
  let entries := (String.join (amounts.map listEntry)).toList
  let back := "\n".toList ++ backFrom "/ul" backUrl
  have hwritten : (history amounts backUrl).render.toList =
      opening.toList ++ '<' :: ("ul".toList ++ '>' :: ("\n".toList ++ (entries ++ back))) := by
    simp [render, entries, back, backFrom]
  have hopening : textsIn "li" opening.toList = [] := by decide +kernel
  have hback : textsIn "li" back = [] := by
    rw [textsIn_append_of_not_mem (by simp)]
    exact textsIn_backFrom (by decide) (by decide) (by simp [brackets]) (by decide) backUrl
  calc texts "li" (history amounts backUrl).render
      = textsIn "li" ('<' :: ("ul".toList ++ '>' :: ("\n".toList ++ (entries ++ back)))) := by
        rw [texts, hwritten, textsIn_append_tag, hopening, List.nil_append]
    _ = textsIn "li" (entries ++ back) := by
        rw [textsIn_tag_of_ne (by simp [brackets]) (by decide), textsIn_append_of_not_mem (by simp)]
    _ = amounts.map toString := by rw [textsIn_entries, hback, List.append_nil]

example :
    Text.Markup.targets (Page.render (.done "<10>" "/?a=1&b=2")) = [("GET", "/?a=1&b=2")] := by
  decide +kernel

end CsrfGuard.Demo.Page
