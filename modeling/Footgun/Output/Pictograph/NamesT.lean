/-! # Names of pictographs: t to v

The names with the code points of what they stand for, in the order of the names. -/

namespace Footgun.Output

/-- Part of `pictographsT` between `t-rex` and `u55b6`. -/
def pictographsT1 : List (String × List Nat) := [
  ("t-rex", [0x1F996]), ("t-shirt", [0x1F455]), ("table_tennis_paddle_and_ball", [0x1F3D3]),
  ("taco", [0x1F32E]), ("tada", [0x1F389]), ("taiwan", [0x1F1F9, 0x1F1FC]),
  ("tajikistan", [0x1F1F9, 0x1F1EF]), ("takeout_box", [0x1F961]), ("tanabata_tree", [0x1F38B]),
  ("tangerine", [0x1F34A]), ("tanzania", [0x1F1F9, 0x1F1FF]), ("taurus", [0x2649]),
  ("taxi", [0x1F695]), ("tea", [0x1F375]), ("teacup_without_handle", [0x1F375]),
  ("tear-off_calendar", [0x1F4C6]), ("teddy_bear", [0x1F9F8]), ("telephone", [0x260E]),
  ("telephone_receiver", [0x1F4DE]), ("telescope", [0x1F52D]), ("television", [0x1F4FA]),
  ("ten", [0x1F51F]), ("ten-thirty", [0x1F565]), ("ten_o’clock", [0x1F559]), ("tennis", [0x1F3BE]),
  ("tent", [0x26FA]), ("test_tube", [0x1F9EA]), ("thailand", [0x1F1F9, 0x1F1ED]),
  ("thermometer", [0x1F321]), ("thinking_face", [0x1F914]), ("thought_balloon", [0x1F4AD]),
  ("thread", [0x1F9F5]), ("three", [0x33, 0xFE0F, 0x20E3]), ("three-thirty", [0x1F55E]),
  ("three_button_mouse", [0x1F5B1]), ("three_o’clock", [0x1F552]), ("thumbs_down", [0x1F44E]),
  ("thumbs_down_dark_skin_tone", [0x1F44E, 0x1F3FF]),
  ("thumbs_down_light_skin_tone", [0x1F44E, 0x1F3FB]),
  ("thumbs_down_medium-dark_skin_tone", [0x1F44E, 0x1F3FE]),
  ("thumbs_down_medium-light_skin_tone", [0x1F44E, 0x1F3FC]),
  ("thumbs_down_medium_skin_tone", [0x1F44E, 0x1F3FD]), ("thumbs_up", [0x1F44D]),
  ("thumbs_up_dark_skin_tone", [0x1F44D, 0x1F3FF]),
  ("thumbs_up_light_skin_tone", [0x1F44D, 0x1F3FB]),
  ("thumbs_up_medium-dark_skin_tone", [0x1F44D, 0x1F3FE]),
  ("thumbs_up_medium-light_skin_tone", [0x1F44D, 0x1F3FC]),
  ("thumbs_up_medium_skin_tone", [0x1F44D, 0x1F3FD]), ("thumbsdown", [0x1F44E]),
  ("thumbsup", [0x1F44D]), ("thunder_cloud_and_rain", [0x26C8]), ("ticket", [0x1F3AB]),
  ("tiger", [0x1F42F]), ("tiger2", [0x1F405]), ("tiger_face", [0x1F42F]), ("timer_clock", [0x23F2]),
  ("timor-leste", [0x1F1F9, 0x1F1F1]), ("tired_face", [0x1F62B]), ("tm", [0x2122]),
  ("togo", [0x1F1F9, 0x1F1EC]), ("toilet", [0x1F6BD]), ("tokelau", [0x1F1F9, 0x1F1F0]),
  ("tokyo_tower", [0x1F5FC]), ("tomato", [0x1F345]), ("tonga", [0x1F1F9, 0x1F1F4]),
  ("tongue", [0x1F445]), ("toolbox", [0x1F9F0]), ("tooth", [0x1F9B7]), ("top", [0x1F51D]),
  ("top_arrow", [0x1F51D]), ("top_hat", [0x1F3A9]), ("tophat", [0x1F3A9]), ("tornado", [0x1F32A]),
  ("trackball", [0x1F5B2]), ("tractor", [0x1F69C]), ("trade_mark", [0x2122]),
  ("traffic_light", [0x1F6A5]), ("train", [0x1F68B]), ("train2", [0x1F686]), ("tram", [0x1F68A]),
  ("tram_car", [0x1F68B]), ("triangular_flag", [0x1F6A9]), ("triangular_flag_on_post", [0x1F6A9]),
  ("triangular_ruler", [0x1F4D0]), ("trident", [0x1F531]), ("trident_emblem", [0x1F531]),
  ("trinidad_&_tobago", [0x1F1F9, 0x1F1F9]), ("tristan_da_cunha", [0x1F1F9, 0x1F1E6]),
  ("triumph", [0x1F624]), ("trolleybus", [0x1F68E]), ("trophy", [0x1F3C6]),
  ("tropical_drink", [0x1F379]), ("tropical_fish", [0x1F420]), ("truck", [0x1F69A]),
  ("trumpet", [0x1F3BA]), ("tshirt", [0x1F455]), ("tulip", [0x1F337]), ("tumbler_glass", [0x1F943]),
  ("tunisia", [0x1F1F9, 0x1F1F3]), ("turkey", [0x1F983]), ("turkmenistan", [0x1F1F9, 0x1F1F2]),
  ("turks_&_caicos_islands", [0x1F1F9, 0x1F1E8]), ("turtle", [0x1F422]),
  ("tuvalu", [0x1F1F9, 0x1F1FB]), ("tv", [0x1F4FA]), ("twelve-thirty", [0x1F567]),
  ("twelve_o’clock", [0x1F55B]), ("twisted_rightwards_arrows", [0x1F500]),
  ("two", [0x32, 0xFE0F, 0x20E3]), ("two-hump_camel", [0x1F42B]), ("two-thirty", [0x1F55D]),
  ("two_hearts", [0x1F495]), ("two_men_holding_hands", [0x1F46C]), ("two_o’clock", [0x1F551]),
  ("two_women_holding_hands", [0x1F46D]), ("u.s._outlying_islands", [0x1F1FA, 0x1F1F2]),
  ("u.s._virgin_islands", [0x1F1FB, 0x1F1EE]), ("u5272", [0x1F239]), ("u5408", [0x1F234]),
  ("u55b6", [0x1F23A])]

/-- Part of `pictographsT` between `u6307` and `vulcan_salute_medium_skin_tone`. -/
def pictographsT2 : List (String × List Nat) := [
  ("u6307", [0x1F22F]), ("u6708", [0x1F237]), ("u6709", [0x1F236]), ("u6e80", [0x1F235]),
  ("u7121", [0x1F21A]), ("u7533", [0x1F238]), ("u7981", [0x1F232]), ("u7a7a", [0x1F233]),
  ("uganda", [0x1F1FA, 0x1F1EC]), ("ukraine", [0x1F1FA, 0x1F1E6]), ("umbrella", [0x2602]),
  ("umbrella_on_ground", [0x26F1]), ("umbrella_with_rain_drops", [0x2614]), ("unamused", [0x1F612]),
  ("unamused_face", [0x1F612]), ("underage", [0x1F51E]), ("unicorn_face", [0x1F984]),
  ("united_arab_emirates", [0x1F1E6, 0x1F1EA]), ("united_kingdom", [0x1F1EC, 0x1F1E7]),
  ("united_nations", [0x1F1FA, 0x1F1F3]), ("united_states", [0x1F1FA, 0x1F1F8]),
  ("unlock", [0x1F513]), ("unlocked", [0x1F513]), ("up", [0x1F199]), ("up!_button", [0x1F199]),
  ("up-down_arrow", [0x2195]), ("up-left_arrow", [0x2196]), ("up-right_arrow", [0x2197]),
  ("up_arrow", [0x2B06]), ("upside-down_face", [0x1F643]), ("upside__down_face", [0x1F643]),
  ("upwards_button", [0x1F53C]), ("uruguay", [0x1F1FA, 0x1F1FE]),
  ("uzbekistan", [0x1F1FA, 0x1F1FF]), ("v", [0x270C]), ("vampire", [0x1F9DB]),
  ("vampire_dark_skin_tone", [0x1F9DB, 0x1F3FF]), ("vampire_light_skin_tone", [0x1F9DB, 0x1F3FB]),
  ("vampire_medium-dark_skin_tone", [0x1F9DB, 0x1F3FE]),
  ("vampire_medium-light_skin_tone", [0x1F9DB, 0x1F3FC]),
  ("vampire_medium_skin_tone", [0x1F9DB, 0x1F3FD]), ("vanuatu", [0x1F1FB, 0x1F1FA]),
  ("vatican_city", [0x1F1FB, 0x1F1E6]), ("venezuela", [0x1F1FB, 0x1F1EA]),
  ("vertical_traffic_light", [0x1F6A6]), ("vhs", [0x1F4FC]), ("vibration_mode", [0x1F4F3]),
  ("victory_hand", [0x270C]), ("victory_hand_dark_skin_tone", [0x270C, 0x1F3FF]),
  ("victory_hand_light_skin_tone", [0x270C, 0x1F3FB]),
  ("victory_hand_medium-dark_skin_tone", [0x270C, 0x1F3FE]),
  ("victory_hand_medium-light_skin_tone", [0x270C, 0x1F3FC]),
  ("victory_hand_medium_skin_tone", [0x270C, 0x1F3FD]), ("video_camera", [0x1F4F9]),
  ("video_game", [0x1F3AE]), ("videocassette", [0x1F4FC]), ("vietnam", [0x1F1FB, 0x1F1F3]),
  ("violin", [0x1F3BB]), ("virgo", [0x264D]), ("volcano", [0x1F30B]), ("volleyball", [0x1F3D0]),
  ("vs", [0x1F19A]), ("vs_button", [0x1F19A]), ("vulcan_salute", [0x1F596]),
  ("vulcan_salute_dark_skin_tone", [0x1F596, 0x1F3FF]),
  ("vulcan_salute_light_skin_tone", [0x1F596, 0x1F3FB]),
  ("vulcan_salute_medium-dark_skin_tone", [0x1F596, 0x1F3FE]),
  ("vulcan_salute_medium-light_skin_tone", [0x1F596, 0x1F3FC]),
  ("vulcan_salute_medium_skin_tone", [0x1F596, 0x1F3FD])]

/-- The pictographs with these first letters: t to v. -/
def pictographsT : List (String × List Nat) :=
  pictographsT1 ++ pictographsT2

end Footgun.Output
