import Reckoner.Zone.Timetable

/-!
# The Atlantic

The regions of the Atlantic and when their clocks changed.
-/

namespace Reckoner.Zone.Data

/-- The regions of the Atlantic and when their clocks changed. -/
def atlantic : List RegionEntry := [
  { name := "Atlantic/Azores", initial := -6160,
    rule := some ⟨1996, -3600, 0, ⟨3, 5, 0, 0⟩, ⟨10, 5, 0, 3600⟩⟩,
    changes :=
      ["-2713904240:-6872 -1830376800:-7200 -1689548400:-3600 -1677794400:-7200",
       "-1667426400:-3600 -1647730800:-7200 -1635890400:-3600 -1616194800:-7200",
       "-1604354400:-3600 -1584658800:-7200 -1572732000:-3600 -1553036400:-7200",
       "-1541196000:-3600 -1521500400:-7200 -1442444400:-3600 -1427670000:-7200",
       "-1379286000:-3600 -1364770800:-7200 -1348441200:-3600 -1333321200:-7200",
       "-1316386800:-3600 -1301266800:-7200 -1284332400:-3600 -1269817200:-7200",
       "-1221433200:-3600 -1206918000:-7200 -1191193200:-3600 -1175468400:-7200",
       "-1127689200:-3600 -1111964400:-7200 -1096844400:-3600 -1080514800:-7200",
       "-1063580400:-3600 -1049065200:-7200 -1033340400:-3600 -1017615600:-7200",
       "-1002495600:-3600 -986166000:-7200 -969231600:-3600 -950482800:-7200",
       "-942015600:-3600 -922489200:-7200 -906937200:-3600 -891126000:-7200",
       "-877302000:-3600 -873676800:0 -864000000:-3600 -857948400:-7200 -845852400:-3600",
       "-842832000:0 -831340800:-3600 -825894000:-7200 -814402800:-3600 -810777600:0",
       "-799891200:-3600 -794444400:-7200 -782953200:-3600 -779328000:0 -768441600:-3600",
       "-762994800:-7200 -749084400:-3600 -733359600:-7200 -717624000:-3600",
       "-701899200:-7200 -686174400:-3600 -670449600:-7200 -654724800:-3600",
       "-639000000:-7200 -623275200:-3600 -607550400:-7200 -591825600:-3600",
       "-575496000:-7200 -559771200:-3600 -544046400:-7200 -528321600:-3600",
       "-512596800:-7200 -496872000:-3600 -481147200:-7200 -465422400:-3600",
       "-449697600:-7200 -433972800:-3600 -417643200:-7200 -401918400:-3600",
       "-386193600:-7200 -370468800:-3600 -354744000:-7200 -339019200:-3600",
       "-323294400:-7200 -307569600:-3600 -291844800:-7200 -276120000:-3600",
       "-260395200:-7200 -244670400:-3600 -228340800:-7200 -212616000:-3600",
       "-196891200:-7200 -181166400:-3600 -165441600:-7200 -149716800:-3600",
       "-133992000:-7200 -118267200:-3600 386125200:0 401850000:-3600 417574800:0",
       "433299600:-3600 449024400:0 465354000:-3600 481078800:0 496803600:-3600 512528400:0",
       "528253200:-3600 543978000:0 559702800:-3600 575427600:0 591152400:-3600 606877200:0",
       "622602000:-3600 638326800:0 654656400:-3600 670381200:0 686106000:-3600 701830800:0",
       "717555600:-3600 725421600:0 733280400:3600 740278800:0 749005200:-3600 764730000:0",
       "780454800:-3600 796179600:0 811904400:-3600"] },
  { name := "Atlantic/Bermuda", initial := -15558,
    rule := some ⟨2007, -14400, -10800, ⟨3, 2, 0, 7200⟩, ⟨11, 1, 0, 7200⟩⟩,
    changes :=
      ["-1664307642:-11958 -1648932042:-15558 -1632080442:-11958 -1618692042:-15558",
       "-1262281242:-14400 -882727200:-10800 -858538800:-14400 -845229600:-10800",
       "-825879600:-14400 -814384800:-10800 -793825200:-14400 -782935200:-10800",
       "-762375600:-14400 -713988000:-10800 -703710000:-14400 -681933600:-10800",
       "-672865200:-14400 -650484000:-10800 -641415600:-14400 -618429600:-10800",
       "-609966000:-14400 -586980000:-10800 -578516400:-14400 -555530400:-10800",
       "-546462000:-14400 -429127200:-10800 -415825200:-14400 136360800:-10800",
       "152082000:-14400 167810400:-10800 183531600:-14400 199260000:-10800",
       "215586000:-14400 230709600:-10800 247035600:-14400 262764000:-10800",
       "278485200:-14400 294213600:-10800 309934800:-14400 325663200:-10800",
       "341384400:-14400 357112800:-10800 372834000:-14400 388562400:-10800",
       "404888400:-14400 420012000:-10800 436338000:-14400 452066400:-10800",
       "467787600:-14400 483516000:-10800 499237200:-14400 514965600:-10800",
       "530686800:-14400 544600800:-10800 562136400:-14400 576050400:-10800",
       "594190800:-14400 607500000:-10800 625640400:-14400 638949600:-10800",
       "657090000:-14400 671004000:-10800 688539600:-14400 702453600:-10800",
       "719989200:-14400 733903200:-10800 752043600:-14400 765352800:-10800",
       "783493200:-14400 796802400:-10800 814942800:-14400 828856800:-10800",
       "846392400:-14400 860306400:-10800 877842000:-14400 891756000:-10800",
       "909291600:-14400 923205600:-10800 941346000:-14400 954655200:-10800",
       "972795600:-14400 986104800:-10800 1004245200:-14400 1018159200:-10800",
       "1035694800:-14400 1049608800:-10800 1067144400:-14400 1081058400:-10800",
       "1099198800:-14400 1112508000:-10800 1130648400:-14400 1143957600:-10800",
       "1162098000:-14400"] },
  { name := "Atlantic/Canary", initial := -3696,
    rule := some ⟨1996, 0, 3600, ⟨3, 5, 0, 3600⟩, ⟨10, 5, 0, 7200⟩⟩,
    changes :=
      ["-1509663504:-3600 -733874400:0 323827200:3600 338950800:0 354675600:3600",
       "370400400:0 386125200:3600 401850000:0 417574800:3600 433299600:0 449024400:3600",
       "465354000:0 481078800:3600 496803600:0 512528400:3600 528253200:0 543978000:3600",
       "559702800:0 575427600:3600 591152400:0 606877200:3600 622602000:0 638326800:3600",
       "654656400:0 670381200:3600 686106000:0 701830800:3600 717555600:0 733280400:3600",
       "749005200:0 764730000:3600 780454800:0 796179600:3600 811904400:0"] },
  { name := "Atlantic/Cape_Verde", initial := -5644,
    rule := none,
    changes :=
      ["-1830376800:-7200 -862610400:-3600 -764118000:-7200 186120000:-3600"] },
  { name := "Atlantic/Faroe", initial := -1624,
    rule := some ⟨1996, 0, 3600, ⟨3, 5, 0, 3600⟩, ⟨10, 5, 0, 7200⟩⟩,
    changes :=
      ["-1955748776:0 354675600:3600 370400400:0 386125200:3600 401850000:0 417574800:3600",
       "433299600:0 449024400:3600 465354000:0 481078800:3600 496803600:0 512528400:3600",
       "528253200:0 543978000:3600 559702800:0 575427600:3600 591152400:0 606877200:3600",
       "622602000:0 638326800:3600 654656400:0 670381200:3600 686106000:0 701830800:3600",
       "717555600:0 733280400:3600 749005200:0 764730000:3600 780454800:0 796179600:3600",
       "811904400:0"] },
  { name := "Atlantic/Madeira", initial := -4056,
    rule := some ⟨1996, 0, 3600, ⟨3, 5, 0, 3600⟩, ⟨10, 5, 0, 7200⟩⟩,
    changes :=
      ["-1830380400:-3600 -1689552000:0 -1677798000:-3600 -1667430000:0 -1647734400:-3600",
       "-1635894000:0 -1616198400:-3600 -1604358000:0 -1584662400:-3600 -1572735600:0",
       "-1553040000:-3600 -1541199600:0 -1521504000:-3600 -1442448000:0 -1427673600:-3600",
       "-1379289600:0 -1364774400:-3600 -1348444800:0 -1333324800:-3600 -1316390400:0",
       "-1301270400:-3600 -1284336000:0 -1269820800:-3600 -1221436800:0 -1206921600:-3600",
       "-1191196800:0 -1175472000:-3600 -1127692800:0 -1111968000:-3600 -1096848000:0",
       "-1080518400:-3600 -1063584000:0 -1049068800:-3600 -1033344000:0 -1017619200:-3600",
       "-1002499200:0 -986169600:-3600 -969235200:0 -950486400:-3600 -942019200:0",
       "-922492800:-3600 -906940800:0 -891129600:-3600 -877305600:0 -873680400:3600",
       "-864003600:0 -857952000:-3600 -845856000:0 -842835600:3600 -831344400:0",
       "-825897600:-3600 -814406400:0 -810781200:3600 -799894800:0 -794448000:-3600",
       "-782956800:0 -779331600:3600 -768445200:0 -762998400:-3600 -749088000:0",
       "-733363200:-3600 -717627600:0 -701902800:-3600 -686178000:0 -670453200:-3600",
       "-654728400:0 -639003600:-3600 -623278800:0 -607554000:-3600 -591829200:0",
       "-575499600:-3600 -559774800:0 -544050000:-3600 -528325200:0 -512600400:-3600",
       "-496875600:0 -481150800:-3600 -465426000:0 -449701200:-3600 -433976400:0",
       "-417646800:-3600 -401922000:0 -386197200:-3600 -370472400:0 -354747600:-3600",
       "-339022800:0 -323298000:-3600 -307573200:0 -291848400:-3600 -276123600:0",
       "-260398800:-3600 -244674000:0 -228344400:-3600 -212619600:0 -196894800:-3600",
       "-181170000:0 -165445200:-3600 -149720400:0 -133995600:-3600 -118270800:0",
       "386726400:3600 401846400:0 417571200:3600 433296000:0 449020800:3600 465350400:0",
       "481075200:3600 496800000:0 512524800:3600 528253200:0 543978000:3600 559702800:0",
       "575427600:3600 591152400:0 606877200:3600 622602000:0 638326800:3600 654656400:0",
       "670381200:3600 686106000:0 701830800:3600 717555600:0 733280400:3600 749005200:0",
       "764730000:3600 780454800:0 796179600:3600 811904400:0"] },
  { name := "Atlantic/South_Georgia", initial := -8768,
    rule := none,
    changes :=
      ["-2524512832:-7200"] },
  { name := "Atlantic/Stanley", initial := -13884,
    rule := none,
    changes :=
      ["-1824235716:-14400 -1018209600:-10800 -1003093200:-14400 -986760000:-10800",
       "-971643600:-14400 -954705600:-10800 -939589200:-14400 -923256000:-10800",
       "-908139600:-14400 -891806400:-10800 -876690000:-14400 -860356800:-10800",
       "-852066000:-14400 420609600:-10800 433306800:-7200 452052000:-10800 464151600:-7200",
       "483501600:-10800 514350000:-14400 527054400:-10800 545799600:-14400",
       "558504000:-10800 577249200:-14400 589953600:-10800 608698800:-14400",
       "621403200:-10800 640753200:-14400 652852800:-10800 672202800:-14400",
       "684907200:-10800 703652400:-14400 716356800:-10800 735102000:-14400",
       "747806400:-10800 766551600:-14400 779256000:-10800 798001200:-14400",
       "810705600:-10800 830055600:-14400 842760000:-10800 861505200:-14400",
       "874209600:-10800 892954800:-14400 905659200:-10800 924404400:-14400",
       "937108800:-10800 955854000:-14400 968558400:-10800 987310800:-14400",
       "999410400:-10800 1019365200:-14400 1030860000:-10800 1050814800:-14400",
       "1062914400:-10800 1082264400:-14400 1094364000:-10800 1113714000:-14400",
       "1125813600:-10800 1145163600:-14400 1157263200:-10800 1176613200:-14400",
       "1188712800:-10800 1208667600:-14400 1220767200:-10800 1240117200:-14400",
       "1252216800:-10800 1271566800:-14400 1283666400:-10800"] }]

end Reckoner.Zone.Data
