import CsrfGuard.Demo.App

/-!
# How requests find their views

A view answers only the requests that were routed to it, and some of these without being asked. This
file says which: a page is found at its own path by the methods it answers, and nowhere else
(`Finding.find_of_path`, `Finding.find_eq_route_iff`). A posted transfer is answered by its view
alone, and no other request does anything to a visit (`siteView_of_transfer`,
`siteView_of_no_transfer`).
-/

namespace CsrfGuard.Demo

open Web

/-! ## What is found at a path -/

theorem Route.ofPath?_eq_some_iff {entry : Route × String × String} (hentry : entry ∈ Route.paths)
    {path : String} : Route.ofPath? path = some entry.1 ↔ path = entry.2.2 := by
  have hstatic : Route.staticFile ≠ entry.1 := by
    revert entry
    decide
  have hown : ∀ entry ∈ Route.paths, ∀ other ∈ Route.paths,
      (entry.1 = other.1 ↔ entry.2.2 = other.2.2) := by decide +kernel
  unfold Route.ofPath?
  cases hfind : Route.paths.find? (·.2.2 = path) with
  | some found =>
      have hpath : found.2.2 = path := by simpa using List.find?_some hfind
      have hmem := List.mem_of_find?_eq_some hfind
      rw [Option.some_inj, hown found hmem entry hentry, hpath]
  | none =>
      have hother : entry.2.2 ≠ path := by
        simpa using List.find?_eq_none.mp hfind entry hentry
      have hno : (if Route.isStaticFile path = true then some Route.staticFile else none) ≠
          some entry.1 := by
        split <;> simp [hstatic]
      exact iff_of_false hno hother.symm

theorem Finding.find_eq_route_iff {path method : String} {route : Route} :
    Finding.find path method = .route route ↔
      path ≠ "" ∧ Route.ofPath? path = some route ∧ route.answers method = true := by
  have hmerged : ∀ path, Finding.afterMerging path method ≠ .route route := by
    intro path
    unfold Finding.afterMerging
    dsimp only
    split
    · split <;> simp
    · simp
  have hwithout : Finding.withoutPath method ≠ .route route := by
    unfold Finding.withoutPath
    split <;> simp
  unfold Finding.find
  by_cases hpath : path = ""
  · simp [hpath, hwithout]
  · rw [if_neg hpath]
    cases hfound : Route.ofPath? path with
    | none => simp [hmerged]
    | some found =>
        dsimp only
        split
        · next hanswers =>
            simp only [Finding.route.injEq, Option.some_inj]
            exact ⟨fun hsame => ⟨hpath, hsame, hsame ▸ hanswers⟩, fun hall => hall.2.1⟩
        · next hanswers =>
            refine iff_of_false (by simp) ?_
            rintro ⟨-, hsame, hroute⟩
            exact hanswers (Option.some_inj.mp hsame ▸ hroute)

/-- What is found at the path of a page is the page, or that it does not answer the method. -/
theorem Finding.find_of_path {entry : Route × String × String} (hentry : entry ∈ Route.paths)
    (method : String) :
    Finding.find entry.2.2 method =
      if entry.1.answers method = true then .route entry.1 else .methodNotAllowed := by
  have hne : entry.2.2 ≠ "" := by
    revert entry
    decide
  unfold Finding.find
  rw [if_neg hne, (Route.ofPath?_eq_some_iff hentry).mpr rfl]

/-! ## From the site to a view -/

variable {visit : Visit}

theorem request_transferView (visit : Visit) :
    (transferView visit).2.request = visit.request := by
  unfold transferView
  dsimp only
  split
  · rfl
  · split <;> rfl

theorem viewOf_transfer : viewOf .transfer = transferView := rfl

theorem request_viewOf (route : Route) (visit : Visit) :
    (viewOf route visit).2.request = visit.request := by
  cases route with
  | transfer => rw [viewOf_transfer, request_transferView]
  | _ => rfl

theorem wantsHeadOnly_eq_false {request : Request} (hmethod : request.method ≠ "HEAD") :
    request.wantsHeadOnly = false := by
  refine decide_eq_false fun hhead => hmethod ?_
  rw [Request.method, hhead]
  decide +kernel

/-- Who neither asks which methods a route answers nor wants the head only gets what the view of the
route gives. -/
theorem routeView_eq_viewOf {route : Route} (hoptions : visit.request.method ≠ "OPTIONS")
    (hhead : visit.request.method ≠ "HEAD") : routeView route visit = viewOf route visit := by
  unfold routeView
  rw [if_neg hoptions]
  dsimp only
  rw [request_viewOf, wantsHeadOnly_eq_false hhead]
  rfl

theorem siteView_of_route {route : Route}
    (hfind : Finding.find visit.request.routedPath visit.request.method = .route route) :
    siteView visit = routeView route visit := by
  unfold siteView
  rw [hfind]

/-- A posted transfer is answered by its view alone. -/
theorem siteView_of_transfer (hmethod : visit.request.method = "POST")
    (hpath : visit.request.routedPath = "/transfer") : siteView visit = transferView visit := by
  have hentry : (Route.transfer, "transfer", "/transfer") ∈ Route.paths := by decide
  have hfind : Finding.find visit.request.routedPath visit.request.method = .route .transfer := by
    rw [hpath, hmethod, Finding.find_of_path hentry]
    exact if_pos (by decide)
  have hoptions : visit.request.method ≠ "OPTIONS" := by
    rw [hmethod]
    decide
  have hhead : visit.request.method ≠ "HEAD" := by
    rw [hmethod]
    decide
  rw [siteView_of_route hfind, routeView_eq_viewOf hoptions hhead, viewOf_transfer]

theorem viewOf_snd {route : Route} (hroute : route ≠ .transfer) (visit : Visit) :
    (viewOf route visit).2 = visit := by
  cases route with
  | transfer => exact absurd rfl hroute
  | _ => rfl

theorem routeView_snd (route : Route) (visit : Visit) :
    (routeView route visit).2 =
      if visit.request.method = "OPTIONS" then visit else (viewOf route visit).2 := by
  unfold routeView
  split
  · rfl
  · dsimp only
    split <;> rfl

/-- Only a posted transfer does anything to a visit. -/
theorem siteView_of_no_transfer
    (hother : ¬ (visit.request.method = "POST" ∧ visit.request.routedPath = "/transfer")) :
    (siteView visit).2 = visit := by
  unfold siteView
  split
  · next route hfind =>
      rw [routeView_snd]
      split
      · rfl
      · next hoptions =>
          refine viewOf_snd ?_ visit
          rintro rfl
          obtain ⟨-, hpath, hanswers⟩ := Finding.find_eq_route_iff.mp hfind
          have hentry : (Route.transfer, "transfer", "/transfer") ∈ Route.paths := by decide
          have hmethod : visit.request.method ∈ ["POST", "OPTIONS"] :=
            List.contains_iff_mem.mp hanswers
          simp only [List.mem_cons, List.not_mem_nil, or_false] at hmethod
          exact hother ⟨hmethod.resolve_right hoptions,
            (Route.ofPath?_eq_some_iff hentry).mp hpath⟩
  · rfl
  · rfl
  · rfl

end CsrfGuard.Demo
