/-! # Names of pictographs: r and s

The names with the code points of what they stand for, in the order of the names. -/

namespace Footgun.Output

/-- Part of `pictographsR` between `rabbit` and `relieved_face`. -/
def pictographsR1 : List (String × List Nat) := [
  ("rabbit", [0x1F430]), ("rabbit2", [0x1F407]), ("rabbit_face", [0x1F430]), ("raccoon", [0x1F99D]),
  ("racehorse", [0x1F40E]), ("racing_car", [0x1F3CE]), ("racing_motorcycle", [0x1F3CD]),
  ("radio", [0x1F4FB]), ("radio_button", [0x1F518]), ("radioactive", [0x2622]),
  ("radioactive_sign", [0x2622]), ("rage", [0x1F621]), ("railway_car", [0x1F683]),
  ("railway_track", [0x1F6E4]), ("rainbow", [0x1F308]),
  ("rainbow_flag", [0x1F3F3, 0xFE0F, 0x200D, 0x1F308]), ("raised_back_of_hand", [0x1F91A]),
  ("raised_back_of_hand_dark_skin_tone", [0x1F91A, 0x1F3FF]),
  ("raised_back_of_hand_light_skin_tone", [0x1F91A, 0x1F3FB]),
  ("raised_back_of_hand_medium-dark_skin_tone", [0x1F91A, 0x1F3FE]),
  ("raised_back_of_hand_medium-light_skin_tone", [0x1F91A, 0x1F3FC]),
  ("raised_back_of_hand_medium_skin_tone", [0x1F91A, 0x1F3FD]), ("raised_fist", [0x270A]),
  ("raised_fist_dark_skin_tone", [0x270A, 0x1F3FF]),
  ("raised_fist_light_skin_tone", [0x270A, 0x1F3FB]),
  ("raised_fist_medium-dark_skin_tone", [0x270A, 0x1F3FE]),
  ("raised_fist_medium-light_skin_tone", [0x270A, 0x1F3FC]),
  ("raised_fist_medium_skin_tone", [0x270A, 0x1F3FD]), ("raised_hand", [0x270B]),
  ("raised_hand_dark_skin_tone", [0x270B, 0x1F3FF]),
  ("raised_hand_light_skin_tone", [0x270B, 0x1F3FB]),
  ("raised_hand_medium-dark_skin_tone", [0x270B, 0x1F3FE]),
  ("raised_hand_medium-light_skin_tone", [0x270B, 0x1F3FC]),
  ("raised_hand_medium_skin_tone", [0x270B, 0x1F3FD]),
  ("raised_hand_with_fingers_splayed", [0x1F590]),
  ("raised_hand_with_part_between_middle_and_ring_fingers", [0x1F596]), ("raised_hands", [0x1F64C]),
  ("raising_hand", [0x1F64B]), ("raising_hands", [0x1F64C]),
  ("raising_hands_dark_skin_tone", [0x1F64C, 0x1F3FF]),
  ("raising_hands_light_skin_tone", [0x1F64C, 0x1F3FB]),
  ("raising_hands_medium-dark_skin_tone", [0x1F64C, 0x1F3FE]),
  ("raising_hands_medium-light_skin_tone", [0x1F64C, 0x1F3FC]),
  ("raising_hands_medium_skin_tone", [0x1F64C, 0x1F3FD]), ("ram", [0x1F40F]), ("ramen", [0x1F35C]),
  ("rat", [0x1F400]), ("razor", [0x1FA92]), ("receipt", [0x1F9FE]), ("record_button", [0x23FA]),
  ("recycle", [0x267B]), ("recycling_symbol", [0x267B]),
  ("red-haired_man", [0x1F468, 0x200D, 0x1F9B0]), ("red-haired_woman", [0x1F469, 0x200D, 0x1F9B0]),
  ("red_apple", [0x1F34E]), ("red_car", [0x1F697]), ("red_circle", [0x1F534]),
  ("red_envelope", [0x1F9E7]), ("red_hair", [0x1F9B0]), ("red_heart", [0x2764]),
  ("red_paper_lantern", [0x1F3EE]), ("red_square", [0x1F7E5]),
  ("red_triangle_pointed_down", [0x1F53B]), ("red_triangle_pointed_up", [0x1F53A]),
  ("regional_indicator_a", [0x1F1E6]), ("regional_indicator_b", [0x1F1E7]),
  ("regional_indicator_c", [0x1F1E8]), ("regional_indicator_d", [0x1F1E9]),
  ("regional_indicator_e", [0x1F1EA]), ("regional_indicator_f", [0x1F1EB]),
  ("regional_indicator_g", [0x1F1EC]), ("regional_indicator_h", [0x1F1ED]),
  ("regional_indicator_i", [0x1F1EE]), ("regional_indicator_j", [0x1F1EF]),
  ("regional_indicator_k", [0x1F1F0]), ("regional_indicator_l", [0x1F1F1]),
  ("regional_indicator_m", [0x1F1F2]), ("regional_indicator_n", [0x1F1F3]),
  ("regional_indicator_o", [0x1F1F4]), ("regional_indicator_p", [0x1F1F5]),
  ("regional_indicator_q", [0x1F1F6]), ("regional_indicator_r", [0x1F1F7]),
  ("regional_indicator_s", [0x1F1F8]), ("regional_indicator_symbol_letter_a", [0x1F1E6]),
  ("regional_indicator_symbol_letter_b", [0x1F1E7]),
  ("regional_indicator_symbol_letter_c", [0x1F1E8]),
  ("regional_indicator_symbol_letter_d", [0x1F1E9]),
  ("regional_indicator_symbol_letter_e", [0x1F1EA]),
  ("regional_indicator_symbol_letter_f", [0x1F1EB]),
  ("regional_indicator_symbol_letter_g", [0x1F1EC]),
  ("regional_indicator_symbol_letter_h", [0x1F1ED]),
  ("regional_indicator_symbol_letter_i", [0x1F1EE]),
  ("regional_indicator_symbol_letter_j", [0x1F1EF]),
  ("regional_indicator_symbol_letter_k", [0x1F1F0]),
  ("regional_indicator_symbol_letter_l", [0x1F1F1]),
  ("regional_indicator_symbol_letter_m", [0x1F1F2]),
  ("regional_indicator_symbol_letter_n", [0x1F1F3]),
  ("regional_indicator_symbol_letter_o", [0x1F1F4]),
  ("regional_indicator_symbol_letter_p", [0x1F1F5]),
  ("regional_indicator_symbol_letter_q", [0x1F1F6]),
  ("regional_indicator_symbol_letter_r", [0x1F1F7]),
  ("regional_indicator_symbol_letter_s", [0x1F1F8]),
  ("regional_indicator_symbol_letter_t", [0x1F1F9]),
  ("regional_indicator_symbol_letter_u", [0x1F1FA]),
  ("regional_indicator_symbol_letter_v", [0x1F1FB]),
  ("regional_indicator_symbol_letter_w", [0x1F1FC]),
  ("regional_indicator_symbol_letter_x", [0x1F1FD]),
  ("regional_indicator_symbol_letter_y", [0x1F1FE]),
  ("regional_indicator_symbol_letter_z", [0x1F1FF]), ("regional_indicator_t", [0x1F1F9]),
  ("regional_indicator_u", [0x1F1FA]), ("regional_indicator_v", [0x1F1FB]),
  ("regional_indicator_w", [0x1F1FC]), ("regional_indicator_x", [0x1F1FD]),
  ("regional_indicator_y", [0x1F1FE]), ("regional_indicator_z", [0x1F1FF]), ("registered", [0xAE]),
  ("relaxed", [0x263A]), ("relieved", [0x1F60C]), ("relieved_face", [0x1F60C])]

/-- Part of `pictographsR` between `reminder_ribbon` and `shield`. -/
def pictographsR2 : List (String × List Nat) := [
  ("reminder_ribbon", [0x1F397]), ("repeat", [0x1F501]), ("repeat_button", [0x1F501]),
  ("repeat_one", [0x1F502]), ("repeat_single_button", [0x1F502]),
  ("rescue_worker’s_helmet", [0x26D1]), ("restroom", [0x1F6BB]), ("reverse_button", [0x25C0]),
  ("reversed_hand_with_middle_finger_extended", [0x1F595]), ("revolving_hearts", [0x1F49E]),
  ("rewind", [0x23EA]), ("rhinoceros", [0x1F98F]), ("ribbon", [0x1F380]), ("rice", [0x1F35A]),
  ("rice_ball", [0x1F359]), ("rice_cracker", [0x1F358]), ("rice_scene", [0x1F391]),
  ("right-facing_fist", [0x1F91C]), ("right-facing_fist_dark_skin_tone", [0x1F91C, 0x1F3FF]),
  ("right-facing_fist_light_skin_tone", [0x1F91C, 0x1F3FB]),
  ("right-facing_fist_medium-dark_skin_tone", [0x1F91C, 0x1F3FE]),
  ("right-facing_fist_medium-light_skin_tone", [0x1F91C, 0x1F3FC]),
  ("right-facing_fist_medium_skin_tone", [0x1F91C, 0x1F3FD]), ("right_anger_bubble", [0x1F5EF]),
  ("right_arrow", [0x27A1]), ("right_arrow_curving_down", [0x2935]),
  ("right_arrow_curving_left", [0x21A9]), ("right_arrow_curving_up", [0x2934]), ("ring", [0x1F48D]),
  ("ringed_planet", [0x1FA90]), ("roasted_sweet_potato", [0x1F360]), ("robot", [0x1F916]),
  ("robot_face", [0x1F916]), ("rocket", [0x1F680]), ("roll_of_paper", [0x1F9FB]),
  ("rolled-up_newspaper", [0x1F5DE]), ("rolled__up_newspaper", [0x1F5DE]),
  ("roller_coaster", [0x1F3A2]), ("rolling_on_the_floor_laughing", [0x1F923]),
  ("romania", [0x1F1F7, 0x1F1F4]), ("rooster", [0x1F413]), ("rose", [0x1F339]),
  ("rosette", [0x1F3F5]), ("rotating_light", [0x1F6A8]), ("round_pushpin", [0x1F4CD]),
  ("rowboat", [0x1F6A3]), ("rugby_football", [0x1F3C9]), ("runner", [0x1F3C3]),
  ("running", [0x1F3C3]), ("running_shirt", [0x1F3BD]), ("running_shirt_with_sash", [0x1F3BD]),
  ("running_shoe", [0x1F45F]), ("russia", [0x1F1F7, 0x1F1FA]), ("rwanda", [0x1F1F7, 0x1F1FC]),
  ("réunion", [0x1F1F7, 0x1F1EA]), ("sa", [0x1F202]), ("sad_but_relieved_face", [0x1F625]),
  ("safety_pin", [0x1F9F7]), ("safety_vest", [0x1F9BA]), ("sagittarius", [0x2650]),
  ("sailboat", [0x26F5]), ("sake", [0x1F376]), ("salt", [0x1F9C2]), ("samoa", [0x1F1FC, 0x1F1F8]),
  ("san_marino", [0x1F1F8, 0x1F1F2]), ("sandal", [0x1F461]), ("sandwich", [0x1F96A]),
  ("santa", [0x1F385]), ("santa_claus", [0x1F385]),
  ("santa_claus_dark_skin_tone", [0x1F385, 0x1F3FF]),
  ("santa_claus_light_skin_tone", [0x1F385, 0x1F3FB]),
  ("santa_claus_medium-dark_skin_tone", [0x1F385, 0x1F3FE]),
  ("santa_claus_medium-light_skin_tone", [0x1F385, 0x1F3FC]),
  ("santa_claus_medium_skin_tone", [0x1F385, 0x1F3FD]), ("sari", [0x1F97B]),
  ("satellite", [0x1F4E1]), ("satellite_antenna", [0x1F4E1]), ("satisfied", [0x1F606]),
  ("saudi_arabia", [0x1F1F8, 0x1F1E6]), ("sauropod", [0x1F995]), ("saxophone", [0x1F3B7]),
  ("scales", [0x2696]), ("scarf", [0x1F9E3]), ("school", [0x1F3EB]), ("school_backpack", [0x1F392]),
  ("school_satchel", [0x1F392]), ("scissors", [0x2702]), ("scorpio", [0x264F]),
  ("scorpion", [0x1F982]), ("scorpius", [0x264F]),
  ("scotland", [0x1F3F4, 0xE0067, 0xE0062, 0xE0073, 0xE0063, 0xE0074, 0xE007F]),
  ("scream", [0x1F631]), ("scream_cat", [0x1F640]), ("scroll", [0x1F4DC]), ("seat", [0x1F4BA]),
  ("secret", [0x3299]), ("see-no-evil_monkey", [0x1F648]), ("see_no_evil", [0x1F648]),
  ("seedling", [0x1F331]), ("selfie", [0x1F933]), ("selfie_dark_skin_tone", [0x1F933, 0x1F3FF]),
  ("selfie_light_skin_tone", [0x1F933, 0x1F3FB]),
  ("selfie_medium-dark_skin_tone", [0x1F933, 0x1F3FE]),
  ("selfie_medium-light_skin_tone", [0x1F933, 0x1F3FC]),
  ("selfie_medium_skin_tone", [0x1F933, 0x1F3FD]), ("senegal", [0x1F1F8, 0x1F1F3]),
  ("serbia", [0x1F1F7, 0x1F1F8]), ("service_dog", [0x1F415, 0x200D, 0x1F9BA]),
  ("seven", [0x37, 0xFE0F, 0x20E3]), ("seven-thirty", [0x1F562]), ("seven_o’clock", [0x1F556]),
  ("seychelles", [0x1F1F8, 0x1F1E8]), ("shallow_pan_of_food", [0x1F958]), ("shamrock", [0x2618]),
  ("shark", [0x1F988]), ("shaved_ice", [0x1F367]), ("sheaf_of_rice", [0x1F33E]),
  ("sheep", [0x1F411]), ("shell", [0x1F41A]), ("shield", [0x1F6E1])]

/-- Part of `pictographsR` between `shinto_shrine` and `speech_balloon`. -/
def pictographsR3 : List (String × List Nat) := [
  ("shinto_shrine", [0x26E9]), ("ship", [0x1F6A2]), ("shirt", [0x1F455]), ("shit", [0x1F4A9]),
  ("shoe", [0x1F45E]), ("shooting_star", [0x1F320]), ("shopping_bags", [0x1F6CD]),
  ("shopping_cart", [0x1F6D2]), ("shortcake", [0x1F370]), ("shorts", [0x1FA73]),
  ("shower", [0x1F6BF]), ("shrimp", [0x1F990]), ("shuffle_tracks_button", [0x1F500]),
  ("shushing_face", [0x1F92B]), ("sierra_leone", [0x1F1F8, 0x1F1F1]),
  ("sign_of_the_horns", [0x1F918]), ("sign_of_the_horns_dark_skin_tone", [0x1F918, 0x1F3FF]),
  ("sign_of_the_horns_light_skin_tone", [0x1F918, 0x1F3FB]),
  ("sign_of_the_horns_medium-dark_skin_tone", [0x1F918, 0x1F3FE]),
  ("sign_of_the_horns_medium-light_skin_tone", [0x1F918, 0x1F3FC]),
  ("sign_of_the_horns_medium_skin_tone", [0x1F918, 0x1F3FD]), ("signal_strength", [0x1F4F6]),
  ("singapore", [0x1F1F8, 0x1F1EC]), ("sint_maarten", [0x1F1F8, 0x1F1FD]),
  ("six", [0x36, 0xFE0F, 0x20E3]), ("six-thirty", [0x1F561]), ("six_o’clock", [0x1F555]),
  ("six_pointed_star", [0x1F52F]), ("skateboard", [0x1F6F9]), ("ski", [0x1F3BF]),
  ("skier", [0x26F7]), ("skis", [0x1F3BF]), ("skull", [0x1F480]),
  ("skull_and_crossbones", [0x2620]), ("skunk", [0x1F9A8]), ("sled", [0x1F6F7]),
  ("sleeping", [0x1F634]), ("sleeping_accommodation", [0x1F6CC]), ("sleeping_face", [0x1F634]),
  ("sleepy", [0x1F62A]), ("sleepy_face", [0x1F62A]), ("sleuth_or_spy", [0x1F575]),
  ("slightly_frowning_face", [0x1F641]), ("slightly_smiling_face", [0x1F642]),
  ("slot_machine", [0x1F3B0]), ("sloth", [0x1F9A5]), ("slovakia", [0x1F1F8, 0x1F1F0]),
  ("slovenia", [0x1F1F8, 0x1F1EE]), ("small_airplane", [0x1F6E9]),
  ("small_blue_diamond", [0x1F539]), ("small_orange_diamond", [0x1F538]),
  ("small_red_triangle", [0x1F53A]), ("small_red_triangle_down", [0x1F53B]), ("smile", [0x1F604]),
  ("smile_cat", [0x1F638]), ("smiley", [0x1F603]), ("smiley_cat", [0x1F63A]),
  ("smiling_cat_face_with_heart-eyes", [0x1F63B]), ("smiling_face", [0x263A]),
  ("smiling_face_with_3_hearts", [0x1F970]), ("smiling_face_with_halo", [0x1F607]),
  ("smiling_face_with_heart-eyes", [0x1F60D]), ("smiling_face_with_horns", [0x1F608]),
  ("smiling_face_with_smiling_eyes", [0x1F60A]), ("smiling_face_with_sunglasses", [0x1F60E]),
  ("smiling_imp", [0x1F608]), ("smirk", [0x1F60F]), ("smirk_cat", [0x1F63C]),
  ("smirking_face", [0x1F60F]), ("smoking", [0x1F6AC]), ("snail", [0x1F40C]), ("snake", [0x1F40D]),
  ("sneezing_face", [0x1F927]), ("snow-capped_mountain", [0x1F3D4]),
  ("snow_capped_mountain", [0x1F3D4]), ("snowboarder", [0x1F3C2]),
  ("snowboarder_dark_skin_tone", [0x1F3C2, 0x1F3FF]),
  ("snowboarder_light_skin_tone", [0x1F3C2, 0x1F3FB]),
  ("snowboarder_medium-dark_skin_tone", [0x1F3C2, 0x1F3FE]),
  ("snowboarder_medium-light_skin_tone", [0x1F3C2, 0x1F3FC]),
  ("snowboarder_medium_skin_tone", [0x1F3C2, 0x1F3FD]), ("snowflake", [0x2744]),
  ("snowman", [0x2603]), ("snowman_without_snow", [0x26C4]), ("soap", [0x1F9FC]),
  ("sob", [0x1F62D]), ("soccer", [0x26BD]), ("soccer_ball", [0x26BD]), ("socks", [0x1F9E6]),
  ("soft_ice_cream", [0x1F366]), ("softball", [0x1F94E]), ("solomon_islands", [0x1F1F8, 0x1F1E7]),
  ("somalia", [0x1F1F8, 0x1F1F4]), ("soon", [0x1F51C]), ("soon_arrow", [0x1F51C]),
  ("sos", [0x1F198]), ("sos_button", [0x1F198]), ("sound", [0x1F509]),
  ("south_africa", [0x1F1FF, 0x1F1E6]),
  ("south_georgia_&_south_sandwich_islands", [0x1F1EC, 0x1F1F8]),
  ("south_korea", [0x1F1F0, 0x1F1F7]), ("south_sudan", [0x1F1F8, 0x1F1F8]),
  ("space_invader", [0x1F47E]), ("spade_suit", [0x2660]), ("spades", [0x2660]),
  ("spaghetti", [0x1F35D]), ("spain", [0x1F1EA, 0x1F1F8]), ("sparkle", [0x2747]),
  ("sparkler", [0x1F387]), ("sparkles", [0x2728]), ("sparkling_heart", [0x1F496]),
  ("speak-no-evil_monkey", [0x1F64A]), ("speak_no_evil", [0x1F64A]), ("speaker", [0x1F508]),
  ("speaker_high_volume", [0x1F50A]), ("speaker_low_volume", [0x1F508]),
  ("speaker_medium_volume", [0x1F509]), ("speaking_head", [0x1F5E3]),
  ("speaking_head_in_silhouette", [0x1F5E3]), ("speech_balloon", [0x1F4AC])]

/-- Part of `pictographsR` between `speedboat` and `são_tomé_&_príncipe`. -/
def pictographsR4 : List (String × List Nat) := [
  ("speedboat", [0x1F6A4]), ("spider", [0x1F577]), ("spider_web", [0x1F578]),
  ("spiral_calendar", [0x1F5D3]), ("spiral_calendar_pad", [0x1F5D3]),
  ("spiral_note_pad", [0x1F5D2]), ("spiral_notepad", [0x1F5D2]), ("spiral_shell", [0x1F41A]),
  ("sponge", [0x1F9FD]), ("spoon", [0x1F944]), ("sport_utility_vehicle", [0x1F699]),
  ("sports_medal", [0x1F3C5]), ("spouting_whale", [0x1F433]), ("squid", [0x1F991]),
  ("squinting_face_with_tongue", [0x1F61D]), ("sri_lanka", [0x1F1F1, 0x1F1F0]),
  ("st._barthélemy", [0x1F1E7, 0x1F1F1]), ("st._helena", [0x1F1F8, 0x1F1ED]),
  ("st._kitts_&_nevis", [0x1F1F0, 0x1F1F3]), ("st._lucia", [0x1F1F1, 0x1F1E8]),
  ("st._martin", [0x1F1F2, 0x1F1EB]), ("st._pierre_&_miquelon", [0x1F1F5, 0x1F1F2]),
  ("st._vincent_&_grenadines", [0x1F1FB, 0x1F1E8]), ("stadium", [0x1F3DF]), ("star", [0x2B50]),
  ("star-struck", [0x1F929]), ("star2", [0x1F31F]), ("star_and_crescent", [0x262A]),
  ("star_of_david", [0x2721]), ("stars", [0x1F320]), ("station", [0x1F689]),
  ("statue_of_liberty", [0x1F5FD]), ("steam_locomotive", [0x1F682]), ("steaming_bowl", [0x1F35C]),
  ("stethoscope", [0x1FA7A]), ("stew", [0x1F372]), ("stop_button", [0x23F9]),
  ("stop_sign", [0x1F6D1]), ("stopwatch", [0x23F1]), ("straight_ruler", [0x1F4CF]),
  ("strawberry", [0x1F353]), ("stuck_out_tongue", [0x1F61B]),
  ("stuck_out_tongue_closed_eyes", [0x1F61D]), ("stuck_out_tongue_winking_eye", [0x1F61C]),
  ("studio_microphone", [0x1F399]), ("stuffed_flatbread", [0x1F959]), ("sudan", [0x1F1F8, 0x1F1E9]),
  ("sun", [0x2600]), ("sun_behind_cloud", [0x26C5]), ("sun_behind_large_cloud", [0x1F325]),
  ("sun_behind_rain_cloud", [0x1F326]), ("sun_behind_small_cloud", [0x1F324]),
  ("sun_with_face", [0x1F31E]), ("sunflower", [0x1F33B]), ("sunglasses", [0x1F60E]),
  ("sunny", [0x2600]), ("sunrise", [0x1F305]), ("sunrise_over_mountains", [0x1F304]),
  ("sunset", [0x1F307]), ("superhero", [0x1F9B8]), ("supervillain", [0x1F9B9]),
  ("surfer", [0x1F3C4]), ("suriname", [0x1F1F8, 0x1F1F7]), ("sushi", [0x1F363]),
  ("suspension_railway", [0x1F69F]), ("svalbard_&_jan_mayen", [0x1F1F8, 0x1F1EF]),
  ("swan", [0x1F9A2]), ("swaziland", [0x1F1F8, 0x1F1FF]), ("sweat", [0x1F613]),
  ("sweat_droplets", [0x1F4A6]), ("sweat_drops", [0x1F4A6]), ("sweat_smile", [0x1F605]),
  ("sweden", [0x1F1F8, 0x1F1EA]), ("sweet_potato", [0x1F360]), ("swimmer", [0x1F3CA]),
  ("switzerland", [0x1F1E8, 0x1F1ED]), ("symbols", [0x1F523]), ("synagogue", [0x1F54D]),
  ("syria", [0x1F1F8, 0x1F1FE]), ("syringe", [0x1F489]),
  ("são_tomé_&_príncipe", [0x1F1F8, 0x1F1F9])]

/-- The pictographs with these first letters: r and s. -/
def pictographsR : List (String × List Nat) :=
  pictographsR1 ++ pictographsR2 ++ pictographsR3 ++ pictographsR4

end Footgun.Output
