import UriMount.Settings
import UriMount.Proofs.Extensions
import UriMount.Proofs.Mounts

/-!
# What stands around a base

Blanks around a written base are trimmed, and a query and a fragment behind it are dropped.
Neither reaches the mount, whatever text the query and the fragment hold: the mark in front of
them ends the authority and the path of the base.
-/

namespace UriMount

open Text

/-- A written base with blanks around it and a query and a fragment behind it has the same
scheme, the same authority and the same path. -/
theorem Source.exists_uri_surrounded {written tail front back : Text} {u : Uri}
    (hu : (text written).uri = .ok u) (ha : u.authority ≠ [])
    (hlast : ∀ c, written.getLast? = some c → isBlank c = false) (htail : Uri.IsTail tail)
    (hfront : ∀ c ∈ front, isBlank c = true) (hback : ∀ c ∈ back, isBlank c = true) :
    ∃ v, (text (front ++ written ++ tail ++ back)).uri = .ok v ∧ v.scheme = u.scheme ∧
      v.authority = u.authority ∧ v.path = u.path := by
  have hkept : Uri.IsTail (trimEnd isBlank tail) :=
    htail.of_isPrefix (List.rdropWhile_prefix isBlank tail)
  obtain ⟨v, hv, hs, hav, hp⟩ := exists_uri_append hu ha hlast hkept.isRest
  have htrim : trimBlanks (front ++ written ++ tail ++ back) = trimBlanks (written ++ tail) := by
    rw [trimBlanks, trim_append_of_forall hback, List.append_assoc,
      trim_append_of_forall_left hfront, trimBlanks]
  refine ⟨v, (congrArg Uri.split htrim).trans hv, hs, hav, ?_⟩
  rw [hkept.filter.path_withRest, List.append_nil] at hp
  exact hp.elim id id

namespace Mount

/-- A written base of a mount is not blank. -/
theorem trimBlanks_ne_nil {written : Text} {m : Mount}
    (hm : ofSource (some (.text written)) = .ok m) : trimBlanks written ≠ [] := by
  obtain ⟨u, hu, hmountable, -⟩ := ofSource_eq_ok_iff.mp hm
  exact Uri.ne_nil_of_split hu (Authority.ne_nil_of_host?_isSome hmountable.host_isSome)

end Mount

/-- A base that makes a mount and does not end with a blank makes the same mount with blanks
around it and a query and a fragment behind it. Configured under a key, in a table or in an
environment, it gives the mount as well. -/
theorem ofSource_surrounded {written tail front back : Text} {m : Mount}
    (hm : Mount.ofSource (some (.text written)) = .ok m)
    (hlast : ∀ c, written.getLast? = some c → isBlank c = false) (htail : Uri.IsTail tail)
    (hfront : ∀ c ∈ front, isBlank c = true) (hback : ∀ c ∈ back, isBlank c = true) :
    Mount.ofSource (some (.text (front ++ written ++ tail ++ back))) = .ok m ∧
      ∀ (settings : Settings) (key : Text),
        settings.get? key = some (front ++ written ++ tail ++ back) →
          settings.mount key = .ok m := by
  obtain ⟨u, hu, hmountable, -⟩ := Mount.ofSource_eq_ok_iff.mp hm
  have ha := Authority.ne_nil_of_host?_isSome hmountable.host_isSome
  obtain ⟨v, hv, hs, hav, hp⟩ :=
    Source.exists_uri_surrounded hu ha hlast htail hfront hback
  have hsame := Mount.ofSource_congr hu hv hs hav hp hm
  refine ⟨hsame, fun settings key hget => ?_⟩
  rw [Settings.mount_of_get? hget (Mount.trimBlanks_ne_nil hsame), hsame]

/-- Slashes, brackets and an at sign in the query, and blanks of several kinds around the base,
which a variable of an environment holds. -/
theorem ofSource_surrounded_of_brackets :
    ∃ m, Mount.ofSource (some (.text "\x00 App://u@H:1/a;b//".toList)) = .ok m ∧
      Mount.ofSource (some (.text
        ("\u3000\t".toList ++ "\x00 App://u@H:1/a;b//".toList ++ "?x//y@[z:1/ #".toList ++
          "\x1f\n".toList))) = .ok m ∧
      (Settings.environment "oidc".toList fun name =>
        if name = "OIDC_MY_BASE".toList then
          some ("\u3000\t".toList ++ "\x00 App://u@H:1/a;b//".toList ++ "?x//y@[z:1/ #".toList ++
            "\x1f\n".toList)
        else none).mount "my.base".toList = .ok m := by
  let m : Mount :=
    ⟨"app".toList, "u@H:1".toList, "/a;b//".toList, by decide, by rfl, by rfl, by rfl⟩
  have hm : Mount.ofSource (some (.text "\x00 App://u@H:1/a;b//".toList)) = .ok m := by rfl
  have hlast : ∀ c, "\x00 App://u@H:1/a;b//".toList.getLast? = some c → isBlank c = false := by
    rintro c hc
    cases hc
    decide
  have htail : Uri.IsTail "?x//y@[z:1/ #".toList := by
    rintro c hc
    cases hc
    exact Or.inl rfl
  have hname : Settings.variableName "oidc".toList "my.base".toList = "OIDC_MY_BASE".toList := by
    decide +kernel
  have hfront : ∀ c ∈ "\u3000\t".toList, isBlank c = true := List.all_eq_true.mp (by decide)
  have hback : ∀ c ∈ "\x1f\n".toList, isBlank c = true := List.all_eq_true.mp (by decide)
  obtain ⟨hsame, hsettings⟩ := ofSource_surrounded hm hlast htail hfront hback
  refine ⟨m, hm, hsame, hsettings _ _ ?_⟩
  simp only [Settings.get?, hname, if_true]

end UriMount
