/-! # Names of pictographs: f

The names with the code points of what they stand for, in the order of the names. -/

namespace Footgun.Output

/-- Part of `pictographsF` between `face_blowing_a_kiss` and `flag_for_bhutan`. -/
def pictographsF1 : List (String × List Nat) := [
  ("face_blowing_a_kiss", [0x1F618]), ("face_savoring_food", [0x1F60B]),
  ("face_screaming_in_fear", [0x1F631]), ("face_vomiting", [0x1F92E]),
  ("face_with_hand_over_mouth", [0x1F92D]), ("face_with_head-bandage", [0x1F915]),
  ("face_with_head__bandage", [0x1F915]), ("face_with_medical_mask", [0x1F637]),
  ("face_with_monocle", [0x1F9D0]), ("face_with_open_mouth", [0x1F62E]),
  ("face_with_raised_eyebrow", [0x1F928]), ("face_with_rolling_eyes", [0x1F644]),
  ("face_with_steam_from_nose", [0x1F624]), ("face_with_symbols_on_mouth", [0x1F92C]),
  ("face_with_tears_of_joy", [0x1F602]), ("face_with_thermometer", [0x1F912]),
  ("face_with_tongue", [0x1F61B]), ("face_without_mouth", [0x1F636]), ("facepunch", [0x1F44A]),
  ("factory", [0x1F3ED]), ("fairy", [0x1F9DA]), ("fairy_dark_skin_tone", [0x1F9DA, 0x1F3FF]),
  ("fairy_light_skin_tone", [0x1F9DA, 0x1F3FB]),
  ("fairy_medium-dark_skin_tone", [0x1F9DA, 0x1F3FE]),
  ("fairy_medium-light_skin_tone", [0x1F9DA, 0x1F3FC]),
  ("fairy_medium_skin_tone", [0x1F9DA, 0x1F3FD]), ("falafel", [0x1F9C6]),
  ("falkland_islands", [0x1F1EB, 0x1F1F0]), ("fallen_leaf", [0x1F342]), ("family", [0x1F46A]),
  ("family_man_boy", [0x1F468, 0x200D, 0x1F466]),
  ("family_man_boy_boy", [0x1F468, 0x200D, 0x1F466, 0x200D, 0x1F466]),
  ("family_man_girl", [0x1F468, 0x200D, 0x1F467]),
  ("family_man_girl_boy", [0x1F468, 0x200D, 0x1F467, 0x200D, 0x1F466]),
  ("family_man_girl_girl", [0x1F468, 0x200D, 0x1F467, 0x200D, 0x1F467]),
  ("family_man_man_boy", [0x1F468, 0x200D, 0x1F468, 0x200D, 0x1F466]),
  ("family_man_man_boy_boy", [0x1F468, 0x200D, 0x1F468, 0x200D, 0x1F466, 0x200D, 0x1F466]),
  ("family_man_man_girl", [0x1F468, 0x200D, 0x1F468, 0x200D, 0x1F467]),
  ("family_man_man_girl_boy", [0x1F468, 0x200D, 0x1F468, 0x200D, 0x1F467, 0x200D, 0x1F466]),
  ("family_man_man_girl_girl", [0x1F468, 0x200D, 0x1F468, 0x200D, 0x1F467, 0x200D, 0x1F467]),
  ("family_man_woman_boy", [0x1F468, 0x200D, 0x1F469, 0x200D, 0x1F466]),
  ("family_man_woman_boy_boy", [0x1F468, 0x200D, 0x1F469, 0x200D, 0x1F466, 0x200D, 0x1F466]),
  ("family_man_woman_girl", [0x1F468, 0x200D, 0x1F469, 0x200D, 0x1F467]),
  ("family_man_woman_girl_boy", [0x1F468, 0x200D, 0x1F469, 0x200D, 0x1F467, 0x200D, 0x1F466]),
  ("family_man_woman_girl_girl", [0x1F468, 0x200D, 0x1F469, 0x200D, 0x1F467, 0x200D, 0x1F467]),
  ("family_woman_boy", [0x1F469, 0x200D, 0x1F466]),
  ("family_woman_boy_boy", [0x1F469, 0x200D, 0x1F466, 0x200D, 0x1F466]),
  ("family_woman_girl", [0x1F469, 0x200D, 0x1F467]),
  ("family_woman_girl_boy", [0x1F469, 0x200D, 0x1F467, 0x200D, 0x1F466]),
  ("family_woman_girl_girl", [0x1F469, 0x200D, 0x1F467, 0x200D, 0x1F467]),
  ("family_woman_woman_boy", [0x1F469, 0x200D, 0x1F469, 0x200D, 0x1F466]),
  ("family_woman_woman_boy_boy", [0x1F469, 0x200D, 0x1F469, 0x200D, 0x1F466, 0x200D, 0x1F466]),
  ("family_woman_woman_girl", [0x1F469, 0x200D, 0x1F469, 0x200D, 0x1F467]),
  ("family_woman_woman_girl_boy", [0x1F469, 0x200D, 0x1F469, 0x200D, 0x1F467, 0x200D, 0x1F466]),
  ("family_woman_woman_girl_girl", [0x1F469, 0x200D, 0x1F469, 0x200D, 0x1F467, 0x200D, 0x1F467]),
  ("faroe_islands", [0x1F1EB, 0x1F1F4]), ("fast-forward_button", [0x23E9]),
  ("fast_down_button", [0x23EC]), ("fast_forward", [0x23E9]), ("fast_reverse_button", [0x23EA]),
  ("fast_up_button", [0x23EB]), ("fax", [0x1F4E0]), ("fax_machine", [0x1F4E0]),
  ("fearful", [0x1F628]), ("fearful_face", [0x1F628]), ("feet", [0x1F43E]),
  ("female_sign", [0x2640]), ("ferris_wheel", [0x1F3A1]), ("ferry", [0x26F4]),
  ("field_hockey", [0x1F3D1]), ("field_hockey_stick_and_ball", [0x1F3D1]),
  ("fiji", [0x1F1EB, 0x1F1EF]), ("file_cabinet", [0x1F5C4]), ("file_folder", [0x1F4C1]),
  ("film_frames", [0x1F39E]), ("film_projector", [0x1F4FD]), ("finland", [0x1F1EB, 0x1F1EE]),
  ("fire", [0x1F525]), ("fire_engine", [0x1F692]), ("fire_extinguisher", [0x1F9EF]),
  ("firecracker", [0x1F9E8]), ("fireworks", [0x1F386]), ("first_quarter_moon", [0x1F313]),
  ("first_quarter_moon_face", [0x1F31B]), ("first_quarter_moon_with_face", [0x1F31B]),
  ("fish", [0x1F41F]), ("fish_cake", [0x1F365]), ("fish_cake_with_swirl", [0x1F365]),
  ("fishing_pole", [0x1F3A3]), ("fishing_pole_and_fish", [0x1F3A3]), ("fist", [0x270A]),
  ("five", [0x35, 0xFE0F, 0x20E3]), ("five-thirty", [0x1F560]), ("five_o’clock", [0x1F554]),
  ("flag_for_afghanistan", [0x1F1E6, 0x1F1EB]), ("flag_for_albania", [0x1F1E6, 0x1F1F1]),
  ("flag_for_algeria", [0x1F1E9, 0x1F1FF]), ("flag_for_american_samoa", [0x1F1E6, 0x1F1F8]),
  ("flag_for_andorra", [0x1F1E6, 0x1F1E9]), ("flag_for_angola", [0x1F1E6, 0x1F1F4]),
  ("flag_for_anguilla", [0x1F1E6, 0x1F1EE]), ("flag_for_antarctica", [0x1F1E6, 0x1F1F6]),
  ("flag_for_antigua_&_barbuda", [0x1F1E6, 0x1F1EC]), ("flag_for_argentina", [0x1F1E6, 0x1F1F7]),
  ("flag_for_armenia", [0x1F1E6, 0x1F1F2]), ("flag_for_aruba", [0x1F1E6, 0x1F1FC]),
  ("flag_for_ascension_island", [0x1F1E6, 0x1F1E8]), ("flag_for_australia", [0x1F1E6, 0x1F1FA]),
  ("flag_for_austria", [0x1F1E6, 0x1F1F9]), ("flag_for_azerbaijan", [0x1F1E6, 0x1F1FF]),
  ("flag_for_bahamas", [0x1F1E7, 0x1F1F8]), ("flag_for_bahrain", [0x1F1E7, 0x1F1ED]),
  ("flag_for_bangladesh", [0x1F1E7, 0x1F1E9]), ("flag_for_barbados", [0x1F1E7, 0x1F1E7]),
  ("flag_for_belarus", [0x1F1E7, 0x1F1FE]), ("flag_for_belgium", [0x1F1E7, 0x1F1EA]),
  ("flag_for_belize", [0x1F1E7, 0x1F1FF]), ("flag_for_benin", [0x1F1E7, 0x1F1EF]),
  ("flag_for_bermuda", [0x1F1E7, 0x1F1F2]), ("flag_for_bhutan", [0x1F1E7, 0x1F1F9])]

/-- Part of `pictographsF` between `flag_for_bolivia` and `flag_for_mauritius`. -/
def pictographsF2 : List (String × List Nat) := [
  ("flag_for_bolivia", [0x1F1E7, 0x1F1F4]), ("flag_for_bosnia_&_herzegovina", [0x1F1E7, 0x1F1E6]),
  ("flag_for_botswana", [0x1F1E7, 0x1F1FC]), ("flag_for_bouvet_island", [0x1F1E7, 0x1F1FB]),
  ("flag_for_brazil", [0x1F1E7, 0x1F1F7]),
  ("flag_for_british_indian_ocean_territory", [0x1F1EE, 0x1F1F4]),
  ("flag_for_british_virgin_islands", [0x1F1FB, 0x1F1EC]), ("flag_for_brunei", [0x1F1E7, 0x1F1F3]),
  ("flag_for_bulgaria", [0x1F1E7, 0x1F1EC]), ("flag_for_burkina_faso", [0x1F1E7, 0x1F1EB]),
  ("flag_for_burundi", [0x1F1E7, 0x1F1EE]), ("flag_for_cambodia", [0x1F1F0, 0x1F1ED]),
  ("flag_for_cameroon", [0x1F1E8, 0x1F1F2]), ("flag_for_canada", [0x1F1E8, 0x1F1E6]),
  ("flag_for_canary_islands", [0x1F1EE, 0x1F1E8]), ("flag_for_cape_verde", [0x1F1E8, 0x1F1FB]),
  ("flag_for_caribbean_netherlands", [0x1F1E7, 0x1F1F6]),
  ("flag_for_cayman_islands", [0x1F1F0, 0x1F1FE]),
  ("flag_for_central_african_republic", [0x1F1E8, 0x1F1EB]),
  ("flag_for_ceuta_&_melilla", [0x1F1EA, 0x1F1E6]), ("flag_for_chad", [0x1F1F9, 0x1F1E9]),
  ("flag_for_chile", [0x1F1E8, 0x1F1F1]), ("flag_for_china", [0x1F1E8, 0x1F1F3]),
  ("flag_for_christmas_island", [0x1F1E8, 0x1F1FD]),
  ("flag_for_clipperton_island", [0x1F1E8, 0x1F1F5]),
  ("flag_for_cocos__islands", [0x1F1E8, 0x1F1E8]), ("flag_for_colombia", [0x1F1E8, 0x1F1F4]),
  ("flag_for_comoros", [0x1F1F0, 0x1F1F2]), ("flag_for_congo____brazzaville", [0x1F1E8, 0x1F1EC]),
  ("flag_for_congo____kinshasa", [0x1F1E8, 0x1F1E9]), ("flag_for_cook_islands", [0x1F1E8, 0x1F1F0]),
  ("flag_for_costa_rica", [0x1F1E8, 0x1F1F7]), ("flag_for_croatia", [0x1F1ED, 0x1F1F7]),
  ("flag_for_cuba", [0x1F1E8, 0x1F1FA]), ("flag_for_curaçao", [0x1F1E8, 0x1F1FC]),
  ("flag_for_cyprus", [0x1F1E8, 0x1F1FE]), ("flag_for_czech_republic", [0x1F1E8, 0x1F1FF]),
  ("flag_for_côte_d’ivoire", [0x1F1E8, 0x1F1EE]), ("flag_for_denmark", [0x1F1E9, 0x1F1F0]),
  ("flag_for_diego_garcia", [0x1F1E9, 0x1F1EC]), ("flag_for_djibouti", [0x1F1E9, 0x1F1EF]),
  ("flag_for_dominica", [0x1F1E9, 0x1F1F2]), ("flag_for_dominican_republic", [0x1F1E9, 0x1F1F4]),
  ("flag_for_ecuador", [0x1F1EA, 0x1F1E8]), ("flag_for_egypt", [0x1F1EA, 0x1F1EC]),
  ("flag_for_el_salvador", [0x1F1F8, 0x1F1FB]), ("flag_for_equatorial_guinea", [0x1F1EC, 0x1F1F6]),
  ("flag_for_eritrea", [0x1F1EA, 0x1F1F7]), ("flag_for_estonia", [0x1F1EA, 0x1F1EA]),
  ("flag_for_ethiopia", [0x1F1EA, 0x1F1F9]), ("flag_for_european_union", [0x1F1EA, 0x1F1FA]),
  ("flag_for_falkland_islands", [0x1F1EB, 0x1F1F0]), ("flag_for_faroe_islands", [0x1F1EB, 0x1F1F4]),
  ("flag_for_fiji", [0x1F1EB, 0x1F1EF]), ("flag_for_finland", [0x1F1EB, 0x1F1EE]),
  ("flag_for_france", [0x1F1EB, 0x1F1F7]), ("flag_for_french_guiana", [0x1F1EC, 0x1F1EB]),
  ("flag_for_french_polynesia", [0x1F1F5, 0x1F1EB]),
  ("flag_for_french_southern_territories", [0x1F1F9, 0x1F1EB]),
  ("flag_for_gabon", [0x1F1EC, 0x1F1E6]), ("flag_for_gambia", [0x1F1EC, 0x1F1F2]),
  ("flag_for_georgia", [0x1F1EC, 0x1F1EA]), ("flag_for_germany", [0x1F1E9, 0x1F1EA]),
  ("flag_for_ghana", [0x1F1EC, 0x1F1ED]), ("flag_for_gibraltar", [0x1F1EC, 0x1F1EE]),
  ("flag_for_greece", [0x1F1EC, 0x1F1F7]), ("flag_for_greenland", [0x1F1EC, 0x1F1F1]),
  ("flag_for_grenada", [0x1F1EC, 0x1F1E9]), ("flag_for_guadeloupe", [0x1F1EC, 0x1F1F5]),
  ("flag_for_guam", [0x1F1EC, 0x1F1FA]), ("flag_for_guatemala", [0x1F1EC, 0x1F1F9]),
  ("flag_for_guernsey", [0x1F1EC, 0x1F1EC]), ("flag_for_guinea", [0x1F1EC, 0x1F1F3]),
  ("flag_for_guinea__bissau", [0x1F1EC, 0x1F1FC]), ("flag_for_guyana", [0x1F1EC, 0x1F1FE]),
  ("flag_for_haiti", [0x1F1ED, 0x1F1F9]), ("flag_for_heard_&_mcdonald_islands", [0x1F1ED, 0x1F1F2]),
  ("flag_for_honduras", [0x1F1ED, 0x1F1F3]), ("flag_for_hong_kong", [0x1F1ED, 0x1F1F0]),
  ("flag_for_hungary", [0x1F1ED, 0x1F1FA]), ("flag_for_iceland", [0x1F1EE, 0x1F1F8]),
  ("flag_for_india", [0x1F1EE, 0x1F1F3]), ("flag_for_indonesia", [0x1F1EE, 0x1F1E9]),
  ("flag_for_iran", [0x1F1EE, 0x1F1F7]), ("flag_for_iraq", [0x1F1EE, 0x1F1F6]),
  ("flag_for_ireland", [0x1F1EE, 0x1F1EA]), ("flag_for_isle_of_man", [0x1F1EE, 0x1F1F2]),
  ("flag_for_israel", [0x1F1EE, 0x1F1F1]), ("flag_for_italy", [0x1F1EE, 0x1F1F9]),
  ("flag_for_jamaica", [0x1F1EF, 0x1F1F2]), ("flag_for_japan", [0x1F1EF, 0x1F1F5]),
  ("flag_for_jersey", [0x1F1EF, 0x1F1EA]), ("flag_for_jordan", [0x1F1EF, 0x1F1F4]),
  ("flag_for_kazakhstan", [0x1F1F0, 0x1F1FF]), ("flag_for_kenya", [0x1F1F0, 0x1F1EA]),
  ("flag_for_kiribati", [0x1F1F0, 0x1F1EE]), ("flag_for_kosovo", [0x1F1FD, 0x1F1F0]),
  ("flag_for_kuwait", [0x1F1F0, 0x1F1FC]), ("flag_for_kyrgyzstan", [0x1F1F0, 0x1F1EC]),
  ("flag_for_laos", [0x1F1F1, 0x1F1E6]), ("flag_for_latvia", [0x1F1F1, 0x1F1FB]),
  ("flag_for_lebanon", [0x1F1F1, 0x1F1E7]), ("flag_for_lesotho", [0x1F1F1, 0x1F1F8]),
  ("flag_for_liberia", [0x1F1F1, 0x1F1F7]), ("flag_for_libya", [0x1F1F1, 0x1F1FE]),
  ("flag_for_liechtenstein", [0x1F1F1, 0x1F1EE]), ("flag_for_lithuania", [0x1F1F1, 0x1F1F9]),
  ("flag_for_luxembourg", [0x1F1F1, 0x1F1FA]), ("flag_for_macau", [0x1F1F2, 0x1F1F4]),
  ("flag_for_macedonia", [0x1F1F2, 0x1F1F0]), ("flag_for_madagascar", [0x1F1F2, 0x1F1EC]),
  ("flag_for_malawi", [0x1F1F2, 0x1F1FC]), ("flag_for_malaysia", [0x1F1F2, 0x1F1FE]),
  ("flag_for_maldives", [0x1F1F2, 0x1F1FB]), ("flag_for_mali", [0x1F1F2, 0x1F1F1]),
  ("flag_for_malta", [0x1F1F2, 0x1F1F9]), ("flag_for_marshall_islands", [0x1F1F2, 0x1F1ED]),
  ("flag_for_martinique", [0x1F1F2, 0x1F1F6]), ("flag_for_mauritania", [0x1F1F2, 0x1F1F7]),
  ("flag_for_mauritius", [0x1F1F2, 0x1F1FA])]

/-- Part of `pictographsF` between `flag_for_mayotte` and `flexed_biceps_dark_skin_tone`. -/
def pictographsF3 : List (String × List Nat) := [
  ("flag_for_mayotte", [0x1F1FE, 0x1F1F9]), ("flag_for_mexico", [0x1F1F2, 0x1F1FD]),
  ("flag_for_micronesia", [0x1F1EB, 0x1F1F2]), ("flag_for_moldova", [0x1F1F2, 0x1F1E9]),
  ("flag_for_monaco", [0x1F1F2, 0x1F1E8]), ("flag_for_mongolia", [0x1F1F2, 0x1F1F3]),
  ("flag_for_montenegro", [0x1F1F2, 0x1F1EA]), ("flag_for_montserrat", [0x1F1F2, 0x1F1F8]),
  ("flag_for_morocco", [0x1F1F2, 0x1F1E6]), ("flag_for_mozambique", [0x1F1F2, 0x1F1FF]),
  ("flag_for_myanmar", [0x1F1F2, 0x1F1F2]), ("flag_for_namibia", [0x1F1F3, 0x1F1E6]),
  ("flag_for_nauru", [0x1F1F3, 0x1F1F7]), ("flag_for_nepal", [0x1F1F3, 0x1F1F5]),
  ("flag_for_netherlands", [0x1F1F3, 0x1F1F1]), ("flag_for_new_caledonia", [0x1F1F3, 0x1F1E8]),
  ("flag_for_new_zealand", [0x1F1F3, 0x1F1FF]), ("flag_for_nicaragua", [0x1F1F3, 0x1F1EE]),
  ("flag_for_niger", [0x1F1F3, 0x1F1EA]), ("flag_for_nigeria", [0x1F1F3, 0x1F1EC]),
  ("flag_for_niue", [0x1F1F3, 0x1F1FA]), ("flag_for_norfolk_island", [0x1F1F3, 0x1F1EB]),
  ("flag_for_north_korea", [0x1F1F0, 0x1F1F5]),
  ("flag_for_northern_mariana_islands", [0x1F1F2, 0x1F1F5]),
  ("flag_for_norway", [0x1F1F3, 0x1F1F4]), ("flag_for_oman", [0x1F1F4, 0x1F1F2]),
  ("flag_for_pakistan", [0x1F1F5, 0x1F1F0]), ("flag_for_palau", [0x1F1F5, 0x1F1FC]),
  ("flag_for_palestinian_territories", [0x1F1F5, 0x1F1F8]), ("flag_for_panama", [0x1F1F5, 0x1F1E6]),
  ("flag_for_papua_new_guinea", [0x1F1F5, 0x1F1EC]), ("flag_for_paraguay", [0x1F1F5, 0x1F1FE]),
  ("flag_for_peru", [0x1F1F5, 0x1F1EA]), ("flag_for_philippines", [0x1F1F5, 0x1F1ED]),
  ("flag_for_pitcairn_islands", [0x1F1F5, 0x1F1F3]), ("flag_for_poland", [0x1F1F5, 0x1F1F1]),
  ("flag_for_portugal", [0x1F1F5, 0x1F1F9]), ("flag_for_puerto_rico", [0x1F1F5, 0x1F1F7]),
  ("flag_for_qatar", [0x1F1F6, 0x1F1E6]), ("flag_for_romania", [0x1F1F7, 0x1F1F4]),
  ("flag_for_russia", [0x1F1F7, 0x1F1FA]), ("flag_for_rwanda", [0x1F1F7, 0x1F1FC]),
  ("flag_for_réunion", [0x1F1F7, 0x1F1EA]), ("flag_for_samoa", [0x1F1FC, 0x1F1F8]),
  ("flag_for_san_marino", [0x1F1F8, 0x1F1F2]), ("flag_for_saudi_arabia", [0x1F1F8, 0x1F1E6]),
  ("flag_for_senegal", [0x1F1F8, 0x1F1F3]), ("flag_for_serbia", [0x1F1F7, 0x1F1F8]),
  ("flag_for_seychelles", [0x1F1F8, 0x1F1E8]), ("flag_for_sierra_leone", [0x1F1F8, 0x1F1F1]),
  ("flag_for_singapore", [0x1F1F8, 0x1F1EC]), ("flag_for_sint_maarten", [0x1F1F8, 0x1F1FD]),
  ("flag_for_slovakia", [0x1F1F8, 0x1F1F0]), ("flag_for_slovenia", [0x1F1F8, 0x1F1EE]),
  ("flag_for_solomon_islands", [0x1F1F8, 0x1F1E7]), ("flag_for_somalia", [0x1F1F8, 0x1F1F4]),
  ("flag_for_south_africa", [0x1F1FF, 0x1F1E6]),
  ("flag_for_south_georgia_&_south_sandwich_islands", [0x1F1EC, 0x1F1F8]),
  ("flag_for_south_korea", [0x1F1F0, 0x1F1F7]), ("flag_for_south_sudan", [0x1F1F8, 0x1F1F8]),
  ("flag_for_spain", [0x1F1EA, 0x1F1F8]), ("flag_for_sri_lanka", [0x1F1F1, 0x1F1F0]),
  ("flag_for_st._barthélemy", [0x1F1E7, 0x1F1F1]), ("flag_for_st._helena", [0x1F1F8, 0x1F1ED]),
  ("flag_for_st._kitts_&_nevis", [0x1F1F0, 0x1F1F3]), ("flag_for_st._lucia", [0x1F1F1, 0x1F1E8]),
  ("flag_for_st._martin", [0x1F1F2, 0x1F1EB]),
  ("flag_for_st._pierre_&_miquelon", [0x1F1F5, 0x1F1F2]),
  ("flag_for_st._vincent_&_grenadines", [0x1F1FB, 0x1F1E8]), ("flag_for_sudan", [0x1F1F8, 0x1F1E9]),
  ("flag_for_suriname", [0x1F1F8, 0x1F1F7]), ("flag_for_svalbard_&_jan_mayen", [0x1F1F8, 0x1F1EF]),
  ("flag_for_swaziland", [0x1F1F8, 0x1F1FF]), ("flag_for_sweden", [0x1F1F8, 0x1F1EA]),
  ("flag_for_switzerland", [0x1F1E8, 0x1F1ED]), ("flag_for_syria", [0x1F1F8, 0x1F1FE]),
  ("flag_for_são_tomé_&_príncipe", [0x1F1F8, 0x1F1F9]), ("flag_for_taiwan", [0x1F1F9, 0x1F1FC]),
  ("flag_for_tajikistan", [0x1F1F9, 0x1F1EF]), ("flag_for_tanzania", [0x1F1F9, 0x1F1FF]),
  ("flag_for_thailand", [0x1F1F9, 0x1F1ED]), ("flag_for_timor__leste", [0x1F1F9, 0x1F1F1]),
  ("flag_for_togo", [0x1F1F9, 0x1F1EC]), ("flag_for_tokelau", [0x1F1F9, 0x1F1F0]),
  ("flag_for_tonga", [0x1F1F9, 0x1F1F4]), ("flag_for_trinidad_&_tobago", [0x1F1F9, 0x1F1F9]),
  ("flag_for_tristan_da_cunha", [0x1F1F9, 0x1F1E6]), ("flag_for_tunisia", [0x1F1F9, 0x1F1F3]),
  ("flag_for_turkey", [0x1F1F9, 0x1F1F7]), ("flag_for_turkmenistan", [0x1F1F9, 0x1F1F2]),
  ("flag_for_turks_&_caicos_islands", [0x1F1F9, 0x1F1E8]), ("flag_for_tuvalu", [0x1F1F9, 0x1F1FB]),
  ("flag_for_u.s._outlying_islands", [0x1F1FA, 0x1F1F2]),
  ("flag_for_u.s._virgin_islands", [0x1F1FB, 0x1F1EE]), ("flag_for_uganda", [0x1F1FA, 0x1F1EC]),
  ("flag_for_ukraine", [0x1F1FA, 0x1F1E6]), ("flag_for_united_arab_emirates", [0x1F1E6, 0x1F1EA]),
  ("flag_for_united_kingdom", [0x1F1EC, 0x1F1E7]), ("flag_for_united_states", [0x1F1FA, 0x1F1F8]),
  ("flag_for_uruguay", [0x1F1FA, 0x1F1FE]), ("flag_for_uzbekistan", [0x1F1FA, 0x1F1FF]),
  ("flag_for_vanuatu", [0x1F1FB, 0x1F1FA]), ("flag_for_vatican_city", [0x1F1FB, 0x1F1E6]),
  ("flag_for_venezuela", [0x1F1FB, 0x1F1EA]), ("flag_for_vietnam", [0x1F1FB, 0x1F1F3]),
  ("flag_for_wallis_&_futuna", [0x1F1FC, 0x1F1EB]), ("flag_for_western_sahara", [0x1F1EA, 0x1F1ED]),
  ("flag_for_yemen", [0x1F1FE, 0x1F1EA]), ("flag_for_zambia", [0x1F1FF, 0x1F1F2]),
  ("flag_for_zimbabwe", [0x1F1FF, 0x1F1FC]), ("flag_for_åland_islands", [0x1F1E6, 0x1F1FD]),
  ("flag_in_hole", [0x26F3]), ("flags", [0x1F38F]), ("flamingo", [0x1F9A9]),
  ("flashlight", [0x1F526]), ("flat_shoe", [0x1F97F]), ("fleur-de-lis", [0x269C]),
  ("fleur__de__lis", [0x269C]), ("flexed_biceps", [0x1F4AA]),
  ("flexed_biceps_dark_skin_tone", [0x1F4AA, 0x1F3FF])]

/-- Part of `pictographsF` between `flexed_biceps_light_skin_tone` and `funeral_urn`. -/
def pictographsF4 : List (String × List Nat) := [
  ("flexed_biceps_light_skin_tone", [0x1F4AA, 0x1F3FB]),
  ("flexed_biceps_medium-dark_skin_tone", [0x1F4AA, 0x1F3FE]),
  ("flexed_biceps_medium-light_skin_tone", [0x1F4AA, 0x1F3FC]),
  ("flexed_biceps_medium_skin_tone", [0x1F4AA, 0x1F3FD]), ("flipper", [0x1F42C]),
  ("floppy_disk", [0x1F4BE]), ("flower_playing_cards", [0x1F3B4]), ("flushed", [0x1F633]),
  ("flushed_face", [0x1F633]), ("flying_disc", [0x1F94F]), ("flying_saucer", [0x1F6F8]),
  ("fog", [0x1F32B]), ("foggy", [0x1F301]), ("folded_hands", [0x1F64F]),
  ("folded_hands_dark_skin_tone", [0x1F64F, 0x1F3FF]),
  ("folded_hands_light_skin_tone", [0x1F64F, 0x1F3FB]),
  ("folded_hands_medium-dark_skin_tone", [0x1F64F, 0x1F3FE]),
  ("folded_hands_medium-light_skin_tone", [0x1F64F, 0x1F3FC]),
  ("folded_hands_medium_skin_tone", [0x1F64F, 0x1F3FD]), ("foot", [0x1F9B6]),
  ("football", [0x1F3C8]), ("footprints", [0x1F463]), ("fork_and_knife", [0x1F374]),
  ("fork_and_knife_with_plate", [0x1F37D]), ("fortune_cookie", [0x1F960]), ("fountain", [0x26F2]),
  ("fountain_pen", [0x1F58B]), ("four", [0x34, 0xFE0F, 0x20E3]), ("four-thirty", [0x1F55F]),
  ("four_leaf_clover", [0x1F340]), ("four_o’clock", [0x1F553]), ("fox_face", [0x1F98A]),
  ("frame_with_picture", [0x1F5BC]), ("framed_picture", [0x1F5BC]), ("france", [0x1F1EB, 0x1F1F7]),
  ("free", [0x1F193]), ("free_button", [0x1F193]), ("french_fries", [0x1F35F]),
  ("french_guiana", [0x1F1EC, 0x1F1EB]), ("french_polynesia", [0x1F1F5, 0x1F1EB]),
  ("french_southern_territories", [0x1F1F9, 0x1F1EB]), ("fried_shrimp", [0x1F364]),
  ("fries", [0x1F35F]), ("frog", [0x1F438]), ("frog_face", [0x1F438]),
  ("front-facing_baby_chick", [0x1F425]), ("frowning", [0x1F626]), ("frowning_face", [0x2639]),
  ("frowning_face_with_open_mouth", [0x1F626]), ("fuel_pump", [0x26FD]), ("fuelpump", [0x26FD]),
  ("full_moon", [0x1F315]), ("full_moon_face", [0x1F31D]), ("full_moon_with_face", [0x1F31D]),
  ("funeral_urn", [0x26B1])]

/-- The pictographs with these first letters: f. -/
def pictographsF : List (String × List Nat) :=
  pictographsF1 ++ pictographsF2 ++ pictographsF3 ++ pictographsF4

end Footgun.Output
