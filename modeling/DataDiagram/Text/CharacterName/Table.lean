/-!
# The table of the names of characters

The names of the characters in the order of their code points, written after each other.  A name
starts with a lower-case letter, which says how many words at the start it shares with the name
before it: `a` for none, `b` for one, and so on.  Its own words follow, and a dollar sign for each
word at the end that it shares with the name before it.  A number after `@` says how many code
points before a name have none here.  Other names of characters follow after the last code point,
which is before the first one.

The text is abbreviated: the marks of the table are the digits of a fraction that narrows the text
down choice by choice.
-/

namespace DataDiagram.Text.CharacterName

def characters : String := " $-0123456789@ABCDEFGHIJKLMNOPQRSTUVWXYZabcdefghijl"

def textLength : Nat := 290685

def nameTable : String := "
*XT9x!qnTH@k)48)E%P]5u+@UMRpO,cmKhKsvP(udaz(hcehKfT$n[FkC:#/l5>2>B|Z?>|H=!>[8u)%g950]l2Q5.7~=Q?zc)r@
C)d&n*CyyA0)=^w</@FK49o1A^:3M:D+6JmpVOty,(wi0bG)T5RmH2OmfE<>563zSgEOa6KU$N_RBQBqoVdUcM$B+@K:nJ24G9;f
:lBu@$gYT$+?:~1pD_sm,zWFu(HE?pzui<EJ@bFO$<^l_z>+z6a7GEoH<J<~pLS%&YC*F:lTd6B+RKvt5CuBG;SR2zRw;~mw;T$m
Nr~vCsbh6+Z(d&7!n,lM3nQ6ocvV?S9b#W*uiJJ;cWV]7x6:k,|bM@$e5L<lMfa,R]5YC*UNq@i+/tl]b.7I+#$=Fe94gcmC4ZXz
Su<.q[P[ZeKr:iadF&A/+]6a8v.@Fp:tvL3!.N$O4u)]pn_a&|<brOa#_bw+CAHp#Q1n<W7w#]#n?1P*kvpUo~u.J)6.s.M[C4,>
P7Rw$GKGi2v~.lI?ZBx8k4h34[y!o?a%I_Sjeldmx4/]mk(F.!%[xR[Z!tMOuq0pX&c~PN/9_)rR2.g)*Eeo@kmEBn=y5kP;ya~V
mkqT%%rU7:0O<LJ|*acv8X0hy]__rc:yANzHe(mb/F2mI>eRcx5C[xsPweIM4)jwZG37mvPZq%ehEaK4%l0Yn2qZY7Dh;ZjZle~@
J4TmH_O?zQs$v3A%zf78xp#d[PF.::sS(~oAa9](]9mmv4|u+S*QU(MkAHky*2Cvt=NdzW,R.$0)Q[#~(%0pVN4>D&TKFk,1W#!i
0]@Ex*m*aT)<kP=J/RnklLL2z^<4lGBqssS:[D<*4DjxBt4L8rR$*hk_yYNg1DchAF@ona]$^:q:+OoX21kTfw;uLx!LadU+m8OU
oZnuEJT(HSDqPz,s,fS:Ln@PhS<65I&HMq+G:k~3Kc_ctn@w+Db^C2$^=K9@m%Q&ZeE=6F9y*|!1nJpjj9_Q7hQ.cY<a^=!k/$On
?6VuREa=E39kG3W9w,mUi1XG9rXntj)AP3qgudd1tSjd.@?K@qSCFw@~nTIwMpojh@+Wc;l7%QQ$g|&pw@s~DZP9,g86Pr%1OLS0
BrYA&@]rT7LVVx97cx)Iu#y4Q5+s,[$zfupUG)#/fU&w_d2Z=@zaR*4&MVlP|OUL@#>E9w^zqBt$h#9FJ>z8*BY53@([:eYGAdHm
=PQter|_Ro#=bv/!a4eF(O=4Dyt[w4Db^u4r)%>2=3@E+<J]aq1,3ZI2V[v.btf<39o;AxATEil8a|IugsVZZC!UMIX3$m#(LCD6
o(O:dk[43B~1iQ&gf7932)Tp#>IV3Ap?[^@uAYSf2R^mtU_$HQ%);4a!.]Ho5GKX#uY+H=l2&~Wg|.jUDte]#chRn],byK%L75Aj
4bATtushCl1]Qukg6jXTmli3>9wnF4vvV>aKx8t2K2ZGEsTX|26B#9wxAXq?cS3)jy6cva,Ye|brS(_+gj:iXsKSZch|JxPuwzCh
c0S>QPltl0|IsvGD~:Dx^WOGeBde~N58lG2YOfqi3I47>s]/<VWYF)!4t~!y+#R;c<6HJjB~cQLpF*olJDY5]_,_@Bb)20H5G0T7
+4++Pf,!,?*Lj&0]r0w)F[gV)!s1G5.s+Y],]7hB7jV3_+kQS=_nPhIwLPm|3#L:OK+W&@@)]dTWu&<<pZ8_=Ht;POza|yJ.O3XS
:;h!u)>PTazV8JyEy1&E0vgrQ)[)>?b_bP%r[K0|~R~XI<9h.l@LkX,+Qvp/6U4buGKG)EvB!bj9w>x81Jx:zebn;HMk|.hs^U@(
]O6aasOP)&rXxxbJDV6jt0g[$O#<b2,0sa+%~HzI4a;]A[ZfGK!n.wfFzgUdCdQrhK[x|6@a_[i#;Qwg$~/n!DbC?dp])2Ct_rD~
%i~5mhiSq|SOnW;vG3*V+npF]XB|i]u/1$#.(jRVKXO_PF&43:#Ir%O]eH7#jouU)|<kVk_j#cmmb2!R|^@n~fj*/86y3uZP#nMB
#5X*P^c)ZOSpgl^rFN0P(i>2X[qsOnB/HmngUJ]0PJd?F<sU*b@T1c%*74yPn4a2^%2Vq^4!+!_B>G;Hr7;S?xm%?98if^,+6zAc
(*oveoL/VffF0z&BDsEZDfpFh[Qiz$x!d,&=!:d@2y=!3=HFp40h).?qfI0#Bp?0ay1+T]31MGhoNIk<*X;55h1y@|1HoYT7A.TA
Tnv~|9bPTsx:TEgRucBl2V;0~QD8yw<$b!6q=TFFp?eEORd#4AU4.qa[Wh)qKr:LVk8jCTgCR5Pn!>k0aaA/tFh?v@uNQENW^Q3(
C1<kn[7iRhXSCpwW~AI!8IU;+YHbWcD=9bC%pae9DS9jXl~,*E/mXFrimk4us,pXAR@RDJgh(>AMhwbOW#<S3qJOC;FLt(!E1<*|
%Vn.Hsc7TWi&eQGS|!H7e9YBKzRHo1Yul?4?vxsCWxM3R^X%!f9i9^5:>@tz+4Wx5P(ZuzN)R^,kLJOK@L&Y>cSSO7f0<(A6bn%!
y),dG#SN;QE9=i~2MGj+.i2GiuwjbkOlX[2%]9GdD,a$Lf]rx,!O>]x73JWUa*K21O:YdGG])xCuF_.=akf|2l.fZCIt8y(OZgp~
sa+RW1%B#mA?RJG?Og7T,fJ2j=l7G]y6QQl~<tVejLz&$)bHA52R+z#e/d,tz<x3NlF@tDU/cq(4)i(e|dm~ihodeys=>5Zut_*F
yY9:aa$Cb%h3(6A]^D:5bq.eQ,?&FZ=t,|L[k~mxz4AG$~Xyi%_8YJyT@Cj~1Qub0+B[s?|_)XY1^2wN|&>d!NQ88P_:V/my|YJv
*kd|Ye?kXQ[!*>FtZrWo~8/,Hi5G<8<13ICiyQza@qo_k^ok/a)J(@_K~|pbO!Cuh7|]|0;Wg9MRdE*i1IGq~8wfPuGV(betNe]>
0~EguzeP6R2SNu|I5O+lsO2JRQpmo(SaqREA8_5:9QCDM>$BqN56FA%gz!_2r$t9c$7,_XE<Z|AlKf54(=Y;xo(V5$HE&7A=:;#/
PjVy;0sLEexvAvhT#;N%u@4Y=sXeFxkT3k,iYrlcz[NC)bB:D<>$32?Vz9n4Lc0olAcf9e9wwxw1#%dysPpY!#[:I7zD+F~QO8Ob
jpLx.Wg#RCs^d+,AJKR@,XEZ<=Jv!iVlplcIzy#Vk:8../OHzDTx*OI(r[;%E8zQ30Q]Twue+eFLYEJ/*]O;+<PuX;cYRBIEmW4y
=L>V5nRRV_5Pr;#wMa+*B:#T?IV_67TmC/|$J*=~yp?!72Z3+r|<EYg@PqM,,u*WZtaRSs(31!GSOcDW>j@^uDv~Pll.9q8y_]kC
lN2DvO<3Wi)VNH%T/7558s6T=6A.<ArjuzES5e_Q_g;T^r1|T0yr&y&[Sd_q7FA<~Dq#K;3;=PZZ,PZ8%)$NH[&~3HC&a|<fox#p
Rgmz0UhVDk#dTet>.1KH=u2|jGU3H#sx2AhMQB4X=|9|4<Wj^E4<<(AwDYfY&%.[|5.I,_Be>U[1#08WP&7Ia5g>Kp@K@$jyB3/W
]WMUEGSG>lo~e[cTkW4NPFKtVPJm<BZhM(yKE2Sp)BD5D,wE%[ue/hPHV~gb3N)UA:HzX@9g3GT|SgLwx.<?gf3D)!xA><baO;dc
AMQ3/eT|@n@,|tujlHF%@pbASUW(]a3htxwS+6[fcZ0Ya6U.4ts6LUUx8ah&OL:kAqT&soh]p3ksW1i)Xqsset%^c_iSu;Rh.qTB
,]j2%ZtvUAX:n%z,7]bEp(*S(lo3n?rYMowQs><bZd,m0j?@~ar@=jGj$S3P]<5|Za%Y$>woG&77FC@9rlLJsw07^|W[>26;Z)&<
6O7P%Gwwx7xIE?n+;[Edxe2iB&YlHqh0w^5rJD;.*P,$;$SD1=j!x>?_M@iNq<oSYFMpou*Kc|#<QYTb8YN&Ft%D#&x3T]?iK=^C
*k30%~O.i;PsG4JSUAY/UC.dLF@@~|l/Ye1hY3c4KK+@HUWarhGO73Clu39A*@&p*KqV=I&9&VJ;X.otHd#9L96h7Y1TZKJm3Oyk
6cznso:x~J=cX$[y/GfGm^uW|5W37!+$YgKXA^44UQVW*XyWl9;yr#(T~ZV[N>2Cvea=bdsynlBmM,;8hyj;kMQIeJC=Iktq76M:
&O+)zG]BJU=i;0tOg#aNCfT!?6v!gD.hjaToOQ|g3S%:XJ/g3>D8958iIY52$:9?nY:lL.L<eEBp@c=w^!yu49+T&oYUW^F[t1R6
0:TRN5[T&JtEF2IHQ6oWGy%OiZ@VEkDgMznf!2,I.VU6ydKVv*lZrB9[XiQntC8#!3Z/W6<QS@w)d5(0wUrj!mL7_duNOX,>bm=Z
1+g&[c>wXRei_E4+dn2^rH*3hae[3dN8qz>nN[zSKCYS]N8EUmgb5Jo1Jr[71Vp~2tvKb;a%IQ1D.F!cD!sdfT_^y03x;Lip^%Xz
Ts<_OC[Jvda|xcjCa^=2zPs[u;r0_UxvMch3.89E.ovas@c!5vGka7Qqeu%^fjg8o7xK1yKBLp)nfTLwJ[+c.%XEohBQ+/ZdRxyL
p@<_+4N5,>W@$zdIf@^ZMO:1GDm:4j*e&K*x[AklrUd98?0+N!A.N]09t>(jMG[KXXvkB#/^9Egq8?&pB$m]i~.6@L:U)CVY9%ul
@+rIR?[d4%Y1^$5!0]88w.]OTG?L$d,RQ[jnup5E*&.4#3VWkS)$=?D*/4rYaj1ZjwT[]N8+hqT:8v:z0~Vq0i&AU1=RTm2#GJDo
z<1w#rYcWdCQ$HP%R3WM_=k~]O,Ig*XmZYM/Em>+!wAF#1go)oORSOrOzO<Pg,6iHTf2zZ7k4lY@dUyvyVke.z!q^uDrC@>~D~|=
g&!yL8=Wb6<A0x&*p,BxtqdCBy?lzfHoSK[qhNc<.fG.?Hbb~Ot*2q<#fdQp_PQwsk!!tK_$EBoM9v5C^Z<R):[RY@e?4x*S1XCb
bLq^B]vF$:TZ#A5&EKp2TpN@Lk4DN._aRm1W2.Nnz_C(8|<G.oar!u5bCkuv_(viDxkQGZo|ittf|tMnG<4X|OUyMxMv*OT5BgS~
jwXi+#Ptjo/jAbBJT*Vg>YpLA3a_I&9M2O+P5ED_l4zz1lh[msRtq[sc.DQ)cj0h|X=wCj#]ksng((Gf1C(&y>o;7T+zw9a%d/Z9
$c9v66g!UHg(egJ/#a~?f2/ED_G1(Gx*I0E|X18pR.YsLl1(v,?M^xl&qQnWG9RJlGvD$|=s11uelS1A)i,:iehk93tQD72#.WRZ
tFJ;nprb&(;^wO.OOb9]#~r_>=ic!+TtkdP57<gYL5To*5ZnA>Qe@n0Ws^:VC!uHkjV/ZMrLKqdodfo7&wb/!|VcJ7pdK<=fzHEB
cq,M)8*@bVk.#z3rl@+]c_Zhrr)oVo8;7iRk8f=ZMh,w])NN989@<3TaW1VNFU0e=[P@omPV$VMhQ|d[25>9d8<Osl92qgpG~luG
?Ob>!0x6y|nLc;(VqD~zGK4z;Yi%iK.xi*QNy*>#])PelzT7,iK73[x.V!fd]TeRaB~4ze~c^&Fbf@>sn1Y2|8q~SWyjyPSk|DRg
8Emg%7V^?%9ogs]N@6HXt>#4J1<<Q:%O328?/!/<lp).Ar6=Mfaer7ofcZZR?~R4Da&eH0>F470gH.jcK@7Jt[<jkd=XT9d@0@HF
~bor=#omM688LiM!?MKdEDP.9gh0F?1tyQ/05KSM,2A[qePkrkoTgH8,V&<r>F$f.:10/n7Xk?xeVsJ/Fzhn[%zqKhah^L)QBZ<Z
z&ykHGjV#H@<svrqa,>E4VqJ=FX4g6Nr$]oiMW^waW]py=i#?albb2nr8F?Mso<m;p6c:ZYT2wiYtJYKu+GE)H$w9oh<93wF~jF>
TbZyP+&aSLKL5wr05=7C8hL^#FGb$m4MoK6EXBSh|@rm@y)PJ=K2E(%JUmr]rQAs+]k8MgoYefCxc!j26n]gxOXou^1/dkuDaZAB
_;E>E7=~0|R|[VTOGo342d4O<)o0_[fV2vt4*g#9ks72ItLhoX^1F^Sa&K;P,aPG*UT2ZZ8NS$S]F/QIUneQN4YbVZ,8](NmNmXQ
0Gk!(?T0o&G2#gn,pkd,*2plk53.x5B|=@|L9oh/g,/crK4QtvCJ1gb>8%S^1[[AG@TH[Cvoj=oR$i(v#k$)g=[tS]Mt9Cto^UJk
spA(VR*s$!>X;@RcL2_Y?~$K@CKkinu|,@ov(Whc$aBu:!J::[1h;MF)Zz:cB9sg~V;f@lxDQ<QxD3.E,b$o*]5;_;a,YXYAPNvO
U>Y]Gq6Ipy[fE#I8nWiSkz~lq@8E6nA1lT36CfP,Z~dvVur[5]>kZ#hW@@_sh_WiMq4VMHrx^/frveHq*T]USS12e.LJ+=73:bv.
gP;*Bne])bQ3$,fQWjSE.ODL/K7Ip()|,Y+nQH_|eMpY2W6E>wwOH)~z]q&Mhr@]FO[R]3*m92@I.$+n3pq(1i@^&pgI~EoY1*1u
4~c)SgwQNr)2ME!=@FXA2HSRB|zHQOUokQsl[5j]b#%^zmTAAxpR&9t[Tt9SP(B5gi@PNTkW*,rWEa*QuhUZ)M(%O@3H6N?1U^+|
f09g/FWlBd>xb]I3GfJ~,l0j8a6/Tf8[d(#<HDI05E$Y7v/@a9(uC|bfRhk:gGk[L(OP9Rql|c9J_WhWW&)4*zXvX=t+mGMBRoFt
?.[|1d#1C_FRd)Sdc,rkl)W,Z4|&BhcG+s6HyNKq@;qx$D6Hw4d&r$sV3wcZcT3Oc(O=<t!9B*GZBH70qGSJBqy*ylp.dG^Y^NG5
[)|L);RMYvKZR%|/qo(sL!$nrX:sLVeCR/m|hi%VzS(<MVOCA)GMjRx7Uf*N|s#Lhdl.qSQa_?.!=WgwAzp~#/UWydE|Cr_V1f|e
t&blyI1?5^~Hm@BdY3W?6#$/*:N%zj?y0L<kZSC^9MOH6_4I4un)|/<l,@<2%3#VI818@/S=o*B9A39=ChNY?e69HG#p|[1v?YLp
oRKpA]QJ?p0ljA/B=>XHfS0z1nLzX*yJ?BtlHjAq/<|t11/G?k!oB<a4L^AH%juUo]^<m9K1([bd:dl3jJmwT64LkEY0c1$0@A2#
Mvz4g*%IS/N*MsD),ni|P0Tah3Hjct]6q~0d,hwN5Mgc^SrD[_b9a8Mv[*ktD;&90)F4dG;Q%2N3t|inFnv@wv$^#?/i9uC?@#t2
C#(/FgxFe?VkW$wJX3N:ff8^X.Sq>GktnUjoi@N5aO2|bP=_~3xRL]Bmq#t!9i:C=I&|LsU^F=@P_|7o:f2NAPRR,sibXK0yqXhY
tk!<2$Fjk<dgug4U~|DegYY=SN7RYU=e_I@;mtwf.pn42O(%5SQx#i6;XA!Kr/z2,:O(~UbP6lWOW6j/PLhooL2.,eWCL+bXw*Pi
0Y?U[Y<r&_pynjkA2ZTlmqmKTQWJ3!@!DZus7nQ=]$TW@rC0#FzE4EA6xLbP1fAhOG%UYr=^6NGP.O|R6B+z:f9a?h%STbPA5=11
Ln2.NwL66Bh~G109C!R9KdVY^F*0Knq#X]p5Xajl9LtDw7(an1$xEZ4SyMoBywrZp]~Y]:CC0,vm)5XbH~4W2+rJ**fhax+2/9M<
71@3&t,WHYy*p|m<w@XJdhz[qwuHD8+!GuFBnd[]V)jkm#eLiEX>_:2Pfs,JqZhpOc&?9cT?j|4XDLmM>rN~BbLX3rXNQ^s*G=c&
W)wE1~P|@d%F]AP;busl&+igLG0[NZ9=wGtmJjd9jwNhto0[R=Q|/~7(!=AB<$oWwi=7*8Fq!/t0w@l#X)8#&I&(I7OcSDKRl:c8
F,JAv[TpgNQe%Q|M,zvZ+NlPBB?7<A@QN8P=:DYmHcSM#jYK:bp(@7pMSG^2i$ZF3!:EQ7EJSx[skN9u|aFFUpt2P?2M#/C,:Qki
%aV%d6B^I#.EX8(g>2R@W38&59Br*$bos7pSbPd.ke:eV,dhFj0yPoaB.gws6R*qQ+*JG+K#TkHQLkq.6OmoN4[u:oT#/IqbXZK9
e>OH+s6>*^&~~;X470OL0S<E+VL)L7r>D7<o;#F35(,*8<94S/U8S66|zGoDj3,aw4&lG@P&ef:maMDotu!QA^#=?YBSA#)!Y~MG
!yztysB^cj1$m9q^]_5[/<h&!H?:E^cro4ykyW3k#jK%tGtA@hXOTb9Ocg$|OJwY#!C4PbMDGcZ>eXnTA8:sY#t7*HSd1Dl$Kqrc
PI(<4LV.s|Dhf_T/Kl~L,OhpjWoq>/5PSysDM#BR6B[^1gnhhh<kpD%/cg~h>N%aT%S90n(%QdI]Vy>E#0u^U%t4Ng$NK5n~ahiG
cQI7$m^j?*id5#F(|ev3rVTuk+<v)i!hO>PN!I;Yly][OWlh?OS3FBB!%.~ay_|h10N~N&0HaeUtQT,_>8nmSBfB=]vOr7se_>Kp
f5s:onmW*~8V^>2=gp.(b.1qHHLRQnCb]c^t)0)gKAXCLYo~S@nJIZ?in,faFZJzLFY2rJ9UU+9H_>yO:.>B=f)f*wfdS+,AF]I)
K;8Pl;,ym64wUdOfu8r&nf:mix/8wo+;)x,I/KaynMM3~xzt8,WY*[~OZPe<8#/?nGrhiUQZv@H3Z%?D@S5M.qO6gC2zR9DBq=D=
N+_*Q&q?s~8VhYp*fi=v]2=2J5u|J/Hu~=JPSO|xktt[ci4)nDsJof4?i)GOd/TBMCH>Pm)zH~P3t2NN~8|sUIm(]f5QP_/qpEf9
A2<xF|%T2;o6C_+7>mQH1B_#zyRte%rsMw<[QGQ$~LQP&t=t7/g>sw~#PxPH!t66wBe&F(>M2UJh#^,~qfn=nNQm4=^Q#Z~l^oUZ
,zL;M1dC%xPh@&YE8iycCfTgJ*_IJwas#b@z?r>@!+.8g;<gLBhPb=,C)n@^w9QR6]C?:VIC8Z%hdmx>+O,Pta5@!@&xO[q1SwhO
F(5:#IPiJA.8uL:!%$,E[[D7+!k#!OXG!#>PA~>(7D&S!di[&$=Q;<(GSf8#VY3qxasG@&H#U@_arEm*/K0:Gg)dOHVEDh1PEVo2
1I(Nel*F+PUnw0!X]SnF[oIIP*%PEoY3t(tIpuu%uwPtPFeM>r3.GizS(fJF0@yF6MefpRnMt11XKkP%yHiY^md*nTPbsBS3s!w(
8$g,B:%R$M~$!tg%Nv<8TJ)47%j|0Io^C>f/qM++pVo$?#RpIiNe[+I$T(xJfAeh0m!|ne!kN@p4mXam?f(!s(U)spI[Yo$hy*tj
^iq!o$i:fZTBd42>ANUORpVFFO.1_xlA_A(i8HV|>ektR=z9gjr0W<sBh*M10Xb4H?J(Pcw,CLup3Soop[Sbf|:Nwayi1|zW_XYk
*]!G,H~2TvKG.0YDX~8%#lHDS<%dE3Ms#ZeBWD:QoNW>G9C*qKgAEd1K9YfzTOBOA=c1|)wmV5]$eS[z$3#p)HaWyX!lXE2J0e@k
|SJL!8#EA5C_YUXPE&uTg;ig[zwFPl=IRI)7nbB4;NE|D4ir$SuY_vH.Fs6I=fC~dnsZ*oaAH4CG8~Hl$,<>:9FWm:o[v,|qkn.)
6sG%4M&W8uGZe*?<2aa$j_8<k6j/4S3=V.|!|$n:vUAnv.U&/tbhe)tZc4i,I;4E,H(vt9W1Uq+_s%Is<<$tky~QFwdGhA+bxt2o
h.i%HfZwxtd|lt+&kun0/=2S+%$#0yJL%D)qb9,kI9,vm7qHiv6v~6ASo*0GM+4/lXBE*.e4i0hI7IQhKa4=It.d1y!GUg[GiYm~
5t&7@]%2LU&>5[lHr3FzP0B1Yp)YHVC5a/(XV7H495NbEs7*+>gH!aywAdhh1nT>?%mFD*!h)b@@@sTgh~lFz1W;p>PpEE8VOI(=
6;mE$r[>vLl;3kPh7;(IpNVW^i=p*w,9s13y8e,mt94DRzn)IaUo/7u#v2*uG/$,nX=&#u[l8smq:r$mcx8!kTgM#]YUVN|S@.0)
e1AccA$X6(_5_hquepIXg6;e[PKMAW~in[6<H4N=Wx.!Uegn<37w*Z%DF9j+Sift@2&lZ#ddx0!4h>>0mXo?TE#/2ckdTC#k2.)|
?Y2&2V.aGHB@IYfZY*Sf490mU[VXfY&&>+OpV!*MdyvCEm<c<#1E|tnD>ebXI;$K+NT>ZR2z~8y&8P&O@W<+IE(;h~<FFO+OJa.L
+?#[#,P!zl:dD*Jcc+N&KCaD0HF3TBYcn[s%$Qa.IPS+]vu4o$jD@;0PM0yEwbSa9i;3nURZf,$f1Bh~Nf9lh9%z*JG>JuqD>>[!
z&(/..9ph2Tv)fApElVCRA(ZONbM*U[CM62]nKa2pt_N(O<IKPWb%L:BQO97?jZ^lG//9zFra]^w1^|#$qS$|Pp3N33#<:9:gU)P
x@GrueySXh/*)KrRu/;4zr!.pORxF|$>h7|C%R;1EPA,=4&~NL>|syoO359_=i4VqBgcclJ*GscwWD?22/++zVp6(L]Te.^y0W5q
?7q^49gVP|ib_f#UPjhvv/y]D.^nn85$RyG9cQg0c>F@dY]V$vF<<>bThoal?.X#IU3ZmM_e14EaCOqan.iJrNxg&HaZZDq:UclJ
Lldn0o<|C%E!/[Wu3B(h8N!|6l]1v!Y5K3&nNuNVETO?V9e^&DBIQwJttY4A|omM*&5P9>fV^%|*jq:5yi%yU4?!ep~^T[>oeRU(
Dyfb[FnxivKqxzx1$e~TvnYZg$<w#7t#WC*whb3n_>|v#v34vUhb>),gHJ!IY_5k~zO@:zSEK,4btb&B$zpGo+Q;>ELj?A$[+a6Y
V@/Qs4QGu+2=#0)ZV,pr=dNBE~YMZ8,N<t&8&O+ceFVUwlIvjwC~TQ:s@WhmMheomu42/W8,z)CAsRxeNfk_gO6G:i=JMb^Q[>[>
#LhaQoUPeD>i>D./z6C&=2U#)Iu@%dH^KitYharF$6wg!(#BVlO$Ix8amT=@WE<+?/~=!jJ[G:.78X~<_keh<&0Pu(RR&n*|>)D.
MxD~$C*W$2FgI;nBH<~<W.J*Wk>5Z&k1M~h)Q=w/C?l]#1l3cC*gA8us:cx<m5=CWfkJp?uApC()r)Tv!Ws8g)tpa+*fz9x5HRJT
eSC&;%WuX~!<wT(W[Y)E;p,)N?1^fB&WN[GS3Z:pwclqAqvGyiG6QB%;4Riq,oXA5b[Pg!Up0m+vV/]2UVN~^~Lcv&EKZNjk?_3R
<0NLzIck#t><EIlwJVo(u7scK2H~i_xjSu]8x8<kBe17#t,;<A!b4$.wF5eRjd*(;?^AJHDI4U_B&uTHK|=n*|.2_yx5_2EDdupK
CtE:2X~JceL*&$#mBFhy:8GAO.A=%B6KjQ+&,e94;<&*HP*R<tb~KxR5;T.2on4/E+iw#$7>hJjxcZ^L1j:N.Q7H=xj8ySp]XY_w
^d[_EO?D.oWzosdw6!i(GT5fhG1#~6Oqo.EVKBhM_53a5GAe$ML1zWRJNI:SX9jyrX2po:=Dea>^<6v&R@k3#O!<Ms<DTw&8azCz
_A]Xjn|w;fuSMeAMhGUJ|%E%BsH|Gb?OfcC=:ym44jA2)2gLTFWnQSuoyrR4^ZEPJj/,SaZQV[o0h>[9>Su[UQ=|cUjZ(3QbP*V.
E9kYrxz?0LsTV&m_,3lB0/&zrC:Ee4<#,,KcHHH2yqL_7ARC6V%R_5WI()!G@?qMCp,w~gfhxDZo&8K2hxEdGPp9H3+|J(2BsSX&
?3^0Y)kRgi<d[mmtN#b6L/.<rLlL)HoMkUAr%ddPy);&YlcuK3|3(Kyec;xYKnWaqQ5*%Ma&,b3iub<xVIKE>YsXB?;IO,k5dy41
8PV3BM:$:EFRgc(4;YfO:cT?tSr18([yRe6^^WPo)IV4[C@Z[B5vs!hc7;v6ih73W,Q66B~v2RWvhDQ*R]M#jl!FaO>Z1O/$JeCo
hL,(~&+Y+&vn5/O<I):g6L0o/CU7c#ch3r@HW+PSFCY3:?GvOWU,4b.mT!Xie[$>pPdc4ww=I@h0=98r6!)0|SJ4oeBfVG6&v*0=
4,dUje1J.g*OBg#3J1l=)rAKjEG3KrkP!z<DB>tA>>182_#~qVUJL7WauI_hCQcm$gc5^lVt8%RVX|_8m[yAR5sJn<mQ<ls8:9uk
duuELP=TUo=c(j8;Hn$~la^%n4WxkB<=lB:(4_E[@*9M%g^&OZ.w*SgFtqN778U;9G3~tg_Vvg=v^yiueuDDpiuedf9^$T?j*SzL
=MZ+KLOs$h^K#IdcRrX@2=sbMAkU8TG1wLOgNk@]8T*,XnR1:RK:BRlbK_7mOd4e[+aSHVoFUEB]_lb+QuIyQ:K4?UAj]3=C?p.=
N(j|$IY?q2!Gu7S)tKB8|zIIE#*@yw^HKtyb5?c.(%k8u%St,cd@PNQ6(W?0KGl.r^:Or&V#697i0cZu(@gJTIZ62bM)yc#+2pnp
,~DdJ)5Lnd<Q[WB1^&HVaX$xE9=mo9B@axJ7ir1Dk)ke)%>wbK/H2vQlkOv2IJB&Kk9N6@BD?Hl~<ar0Ay,$h^FU+ztc>@d?Wb:~
@UBC$[TJJH>=?VhrU)8jhtL!h|x.AspUP,vw@zDm)=ar4RPh^ar&1[WT*,$v;KUdYu@H42Pcej/H,sZazr3C8MrIwBHnYwL(o/vS
(Rh.?A9dlulhu1[H]Ey.ddaf301Syfw/lej:FpBU~XSRaZ2A8a8e5kVDJV.LAJUR/CuK[B5jR;DtHQ=k<>pf3XSLOs|;qR5&/8VW
.Mp:pVmM4k8pa&uapd|E$00dzQP!F:;;@BaL7vr/2a^5Qb5w4@]yWSJmt@59q9IMCYPeJr~7JMu.vu/>z7j=SiBlQF.Tpu.206*#
v*be*Q/2~>mE>Vxm9qfa0[ygQCtVnC7q6|H.KbBYcm8q5$TjA(qdhK$eD#|U#!%:o_DuEvHIv<8eVmD!(=V,h2/v~pos3QrtTiK6
QLSxlNpR)nSzXu6|<9x[53((q%VpAA:?N%:sk$2[Xilc#O3cM%84/UR19<8m$g~TA|#sO.P,C0PoCwqg[=Uo=;(|0[MABY:TS774
>xp]oh>~Wfcd+t*h36[W:+M,C;0G7>DT#^3|b0+7YD0WCU2h>0(J@Nj&<#&ZHTDydF5HGJ=V>c!TLEn,IBp?j1|7,G1nT1sy9dBn
(3;5cucLN+;^VJ)1uw5AF0Fr$@micRVb5!3s;cMA2gHeBMcodK7vD|Es=uW|:k(IgM!oYt.KS!8.|EYzP;ckY[;hyg>Jf^Tb7j!7
TM=1GK&g,F#%^mE7Y<U6rbYBD6Jz*4fiI]3atJM<e;_J<fF%zL7y*V=?Vj@pY#6X6J0*.|[3mdn/sOF4a*BZ@>kK;_Bj0SK6,(@N
Xl$=R5MOJ;^b>ST?w54fOz/j2BO+Bee|_,WS*=OY&:59(|i)M01C?N&=uNE[NNq+&SYOxqI_N~)+v0h8tHTpF_I+SrFZ3&j,#LvZ
z[_AQ:jAe]KI;UT?1;DxK@V[NaHbbyh9j7W]J!/9$%H03D3n0+QoX$=7?a[Q<2qGt#A*>3b&UwFVR(L+[5[$^7M!<ujZ[aSd;z9G
8L6ZtUZnoE7W8Iq@L[mg?N_h]^Wd13W1O>?7Fas@En91=)NQ~$m6@5d4%UHdF]~D3*[ZzU)N|kd.!<?O,@2%Bh.i&ZEURr/!K,bR
5ans&~63Ljh?*|_E)H@e@icL*V?M>?8bl0_K!j^lWvT]@On3~KFf?z)gJsgK6C(|7.9UWv?sK?9(vzEH77^iX8M!yh@u*u$?CK69
PP1Q5.kO4;^JxyVhlQcpb=w]Q.qVi/8*rZdx!m0+mfPFp_W,<9<$B_+@^w__K[rA*g8VmWI^;XsPI!i%De%|(FPLZCxQFE6YO^Pd
z:@v*Kii]r;B2v$/Mk=036_x8%7]4*plgzY@@pn]d<.v|RSHswvM_E>Rm<@V@fE23m86Lc5P7X=YH0ZvQ|BK&Ww*i#71uJ0>Pk/0
5xm4aZ+SXl2~BYbjAtivtc&5R%#mvxa9=uHnTt|]J3:j&ZVus?j(s_@[Yu/jFdwh:U]v0Wd|*fM63E3WKx;$Z)&KLO,QM@k4*$!:
nF~m[lgJ38]|hIV8A~wT0?S;|b1U,SdhCV5^#VeNc<@Cc<xq:[a7X)%RL@RnZn&xi?xpjWoDz(4GHLpt;4t$b;u<&7oANPjTf.wN
QIHkNZelRJH)Xu]pBN,U>5NLaKu22MQJE1|ed)$kbeQBh6Xpc$8a;1!*y5RS;+0%7<7MP:o4&x7aI5tL#bxOzik*bZsUWIRoZ$BL
dWn(M*(^<x?#H/g@hbFAy:U<oC:~HI=zjR)?<2@(X1_s?4)!/?f*wNece4):1fhHDQxgD(74jq6B].4L_3;zZ+*[LhtXARPMM6%a
tKsu+?+p3sI^G^QI2vBI&,^DB&IwnlMV)&UksWLCi#ICgb~+:kFajUC.bm$1a4UYEt]blk_N~Gn=Ci#(K;zs~BA&hXTq;i/>?g4b
JhOJSIAR9^Uu2_y3Ak9!OGJMu!OZPFXceA~cN2q3C(WhX>>S%j?LI6irxq7Hi4)<wDk,|Xyqi~S#m0:/&?40.a04~0B5~KkVWaA8
hHJ+1_$q[(+goq.X#R:EMv)?XwJ>(WK8VNrMHGhKo~/8u,4o3A^S.tii^TGkL7vqQ8EXYo1Av3n5H_6zn[4$RSee]t.q5<>IX!X=
vp6R))16GK/bQ(<j!g0g9/?_wiy(a|X)p(Xtr!#?50:Gq_Pqftvnxs5(9vh5useu8XKX|~O65UhLf58yw4KKzHLDY(kzC^yY[^gD
]%Q/#$</Z$ne11|i9~6NAX8zW^k??E9T(XIWP$BiS0eT^A*e&dR>s_!PO)(IASMWgK]1(.3<(&?vvrT;j+viT3,g*C.(~_B@=^Ct
$LulJ%0BXCWrI#9740_GC,l+iZ)uHhDI3W8_4Z:dxov@GsId$4hX0k_?e:=zTuR~;:FF.hUUR8v;4?Mjm?BNYnyG;#aeW&M8gMp@
V9@0lLVH?YR:|2.KU|bt1~)%l/9/r=s,>|:wEvn)YMAs7z*|Oib74MtwBX<_eOAyY;U4KEH&I|cds$52K*WmaqGA^,qQ?V^JRZoG
R.V.pco%TMdc&7]aW>k@L*6A&v_S!@m@Bc;=8mg%M|85Ntw9Aj1;~]7o7EVKH2*fZ5gP|v;/(i=V=|xO|a9DbqkuFudh=M*+sWl+
RM(,U;8hvqv6u;#|1gh5F~81lBsJv0XuU)u(?Jq*s:b+H5$q7j^9PQT8.*NU8SJ8joEOfj(%J/jS;PELKAUN#DjB5Izj~C_;lq<5
,m(EH*a:@A8_1F1#>rvlwz)2c.!Z8i0/g1K?*(cUstf[&YeUY9:$k0q[P<4~vm]dWY)zc9&kD#lXB2piSToS4kX(!KY0m%oiBLLq
#BrNN)jn:t0f/Z<lSb;ptejxz8T)~=Xhv?|lx<!yh<+h1HE>5H(,Wi:j:kHfGhQ.|6CL6as[kxW5DvYU^uv(H]~jKG8Q7txXCrrz
ZDm:qmLjly#X&_nO;nCb9ii_?#)O?P?B!u60<AJ;3TyriaKRScHHtX4D=el^FhdZ#+%EMa%3#a>wSyvY..,:&?_AV#gfXlr%HjX.
c2d3lgA.qMCsoxUPnz18S$$gmZ2r?t/L^Z2%D;[aIU3EZaymBH]gOWeaHJLn1TBQb$MHr.D^fco,[x%>]|$cKn5~E3IAnE$KXZSQ
<kBAk+[PSeV/n[C(2c|LUQj2[s%12oEm@rZ&1>gj=TD8gs7P)bsih,$nCWoJYLzj/ec0(xGiCo>Zacjrd0FU#u!::EJ$v!1GAQxe
Kb@/qEPA0!)5=jEMZscf6!SCR#CQ1@6PLR|tTR1CbrjJr[on:h4^fEb3yRL/unlsdeeADd#l3G6s;yK$&adD(zfE;c0)u73FXbXX
qwkDF[@]qz0*Ogk@Z/Y.2B!F*|;]Zq(L)]vKmM0Ii=koB(y[QldcQU5_eY5Vk73R=Ya_/Pmg.T^]T03jY,hJY]i]SnJ6D7OO@qPC
p$s8YR,fz7.Z$=&spau$f)z]tQZ=QX7kv#R(p)g@V+<nD6k@][Q&?_eQqlS=.0winvzX~&5ic.U;Pfv;,[h<Bw)a)s?#9c>fm&Ze
nvPsj|WL8rxSJ#1ei7VYsW5[S4%?^=[OgY2Ae<[1O*NYt!J?RLuP18F<Rs(rZq~^~AS)SY;,9EyifK~1sE+DNSk)!Y%k~zG@6Vd@
aNta6C^B$6x~fb43e4I+VP;NKohV&*Idsd#yTFGVHJZ*D;%E_InpWSdjv)zw;zh):6r/:~]U+Y~vbrvlb^XR0.;2OtpQCC0%?kpm
)zzuGR[#PO;G3n8Mn|8#FCH:Kj&Cq5*1QG]GJ5qD!C$of?=xVfGfe<~wg@g2VdEM6D6[lKx8YoS<_nYp0M#5/[efBCo=G=Rlc~*L
dKmL/Or_^pyYf:lhCM_SdD]Q|?>tND=54;qYiX,~Qb(^oZC(,P<i7kf9G;RsoG4WCJsG=NmAU|&uT3j=kDQx=@,fLsJMJU,x4zc^
07/7f/W=rbXaRZ(h?_R7pnKDiRV3d?sTna(c|h)VDhk5sV;2+nF[AiHFyqy?X:O.V;KhuRVU@>S|JBRpM:6x,aet2X0Szdd~2;Fv
2:!;P572bkbe$Y+lP=XDhF+^mGUYQg:Qgem1+x7*BP<go(G%?5[9X|7x?,jeBjW?,z~E!u=X(>qI%3_)K*M$(GG.%hooi+X2R+;+
xRGy>kpQcL,xfkIV>!ix;Bq![^a#>ay8m9[gCq,AuuwDH4EC|.X@d4[D]^X5=Kih3EjY|!D_thv(xMm7/8q]M+%wEBQVD7Mo2S~3
+s63#ZLC^4PP:n?Ya~OG!%zk1xahWo_B8[8x4bsCB,g@eX&k)>@H#69(R3FD>zNk1FT9R,<g3MNSDd^*3VWjs:9vMEcc[2<kGg:8
r~PmS7<!8j[P|Jbr[r(w99l)[~Fo:@!<VJ[cg6eT).sOVNQy$>bj#JvSXr=uzm<a>>:3F!6LZ*fX8WM02Qaz&_2)?v7si%L[*1a(
b@&n]ONZ6PmkzUK$~A>&U1<t+,~bV(!s+EfjwCY@dX3?*cy>t+Q>a)s<KwXC!m?J:.!ZjJMe$8grlde;hzem?C>W0LP7BCjJJm#l
bs*tzF1(@pRaif#qxL8os+mH96Ht%JH)eNT6o(=+B0&F0;X:vsx%_/34%Aj.R>3*xcAMRcE/U?DYk?F+W>aD/e8<UXpxPCGFiZ~x
RRH2,xrz~YO!1r%CyiDa71KQICTZ]HYxt/1,Cp~)QjhqmT$4LL^exQ^J<yn_!O@Io6KPL45(8v?r#E=_qP,NA5^a(H3,fsJ@gs6?
ERgQ_=GK=Z^6PB=.1Dq1^l:K2s@P>D>b<KV;);y!X)/8uUT9<(u;k^i%^~D]OkG]9DYM#i,?4DzFCmjv.H=K=@BrA=it;#PQY/[w
SYq_cjg~1;H/pm[Wq#y2jMXwOlj6:3+HG!NtZsp>W~Pw.:nwmKuKnP4+xGBaxhr:YeZO1lF;PDKNX.?XCg?QQv2&APX?)kl;Lv:+
X2:f9fL4kS_:agNjxrfg@;d%FIG&T9E?cvV,AK|&J).j9FAA>WJ/QsyX2?Um=%*99@s9lp.RN.mA[VE^3Q$$#Q+cN3.Gd80+uEd=
,O;3iFm<@@9xtbLKxCO2,:611~*y.z*;zZiWhEEXMsAA^O7]dYc(|13pw<cqX=~EFWj*_HP+jg3syeTp>^RtmdUKzVdKI>Ll<v$7
@lNU%DdVq0aL_UL%~rzR~hltT0GlFt]TWcbs%[E&rTRNErw:<m*ae%|cqu&FPXYPI1$;Un?y/]#C9]WA/[Izp1x;[sZVz81M7EG&
<6)N^NDJKy)Zf?N84h#<mlMs3z!J(xU3w#OI_.q~kbAGy,|GaTMyQZCL>7gR3dc|j=Od.J0F698C!ZG$FuJT?m!pLT|uC%ca.0bT
?rdiL*gLaGZ^>]eq?|FRwr,x?z#)*3vXA<quR8]gb:_pCe!Y|dhsua&?|:5^%rla?M)<l(2K_Z#ADp)*bJxjq,&=@q8La^Sbjw^^
!s_me:g|l^)Kp>Lx??ap2~o:&WlON4B)a0eUn%9h_9jAW^x/)Anb~?j3@Ja@E/zWLz1)Se:cLCR^kr_mPotR_?UXQC3|9i93pf+;
:w;>TZ+^y_PmV|^8SKPw9OHSW/1?dHFc[5g_RK3nS]Oa>,LiRQV7$)N:X$*6OTJyv*jmKBz#w^/~h+La3(FFdt(C5k04&:ar$Sz]
LQJv3.g969L93up6q:A@Cm;&9e&hUiiKzx:=Gh5a.=vr&K@/wpQ7$?otoE*Fc(!^p!UAc,9)A&I?i2k+]HJ.NCd[[vh/wj4jJ^x6
x@acxJsh/<9t2f^~R^7AUo@*#o:MjhGUZ56Kxq(UBE(!=(gu@0)~i<>@hT5~5<*^L4>,N]:;T<y>*DgNMh=NMBS/Ky~|rU?Oxr;I
Uc9YdFPay:TjJ*6x1o*=%a~KV0Ss[)(I1w$q#vLn+4>tKZ(^|zIVUvzya?cu7*0T|4^DcR#q:UXb7edMe1^2K?axjcWRH20xlj5%
59[!lQ1:|Kw?adK_Mq8OofReQ]Uj4~abH6HezGYD_T[2r(>$BcOr*5GkPH*N6|@$VPNH4urn:8x#dnVGZnoBA96l[ar:u%Jlsm0;
pDwR|J)e)]N4qa>L&Ae+#J[tak99Z$uM6xCidTCPom((fV7~@_99)4:jP?uoY/xvWV~i0pfFj2n==/H1>.~crcfgVlG9+#%x,&h7
y3A,)Z_xRi2d9GPbaktc~A3.8F,KEm5oRB^cdW@wx5q[~k2of3<,Y((+DJ]s:!(,&ijF810g#iM|f4ER5eQ[V6zA=PNi@VB^5*DI
=HrIv9kkhY8%HAOaiuP!^at5EYh:nYs9L5IQLPEw,EE%lC<WaH&(fQ&&MtC%weJX_<jt_pi?1;9=Ui^Xew@>DD33Q+94jyf@(pLZ
7r^]7F3$IW9V%BR:#uj.KH1O8_nwx3yiebEXBIe2W|ckv<aS3Mu07dj(|n~^:o5O~YFqQF]<HF/$1_*]%=@G]2)nxs4K|.q]J4a^
Q_,>xWu:1Dc<E^&2fEAlq7U$$I6_&xpg9|pX0)4b<Iwvvr(GKnxD%ys;:gOH=toU_cMF*9@)o_wV/U(/HNqwD>p#9!QGn<M6A:n#
@SVQ/UsX+ZX(c3GBa0/kk_/n,Gp;o6BfIXr6f~EqSJ1ZKIL.4L+e|N.$h]%duX6,pv_k(j@f0>C93dz84hs/6^6i3YjN=>b/BNs$
%pYuDl)ks1$EAv|!^qQc9zYd?ZY;)da#h;Cn^$7j06CKhbbvsp1O?gzbu1>1;*UE4qvfsKISd[@RpBH@8vevW[oZYmDX==cz5b%>
k25/4IB;+g6Pz:OUQC!8K_C<X6wFSjUeN!|JeEeIx!A,^/r4k:24Ny*OZml,K@lQA;Y)B_#x;/w#6cv<^??;gKVFZ7O<L~8fMEc;
=C7]uDh]W%dsK*3cz]rXZDU:vBptC;AP&_Xx%k*KP=XCOrjQD58j$Ud!^Lpo0q_XnLuj0wyXM<z;fcqRo6w__=+w;l%KX7N3^[O$
=gZ&x:q0xO$us]JVtV7n%Q,1Pw.DK2,ZUxoj>WZY_6<V*M#L0A4L)Z0Ax,/2Pv@yyE$HQ/Di=i92C^Ooo?x7RgaOUg6%GVR1WJ^%
nv>J*3QG/W5eGYU1,Ql=6~OUsaFWU2U^4V;ueFyb^nX@b8WGJFK~vM7s]NsZ,]:bjlJrwq@qR?BV*MnIO>I!ztKNH50lNI($$n#W
G5b[b1YATHVU=M+xus@5G~2HOq_Qzh@VeykGD3dgp?QI@JGA[#Azap+x;oi=ahGUqX>b@MxdkYC@J53|W>B6q+2x+~(,^J,2Ohlw
3RkR*e(:#3>:>XKA<?m~n7&H2&9av(:QuTD/p&:?[./rr7>Cx#~>m1hb*$)9K.gmUyyN:EeHX,a%DP5h/Z/y]=$8s$fXX:kleuqo
^APo>e|3Qkb<NnL&:dm_J@SI@x!p%IwRllpXds3)/9R?LPTU!?lTD0|@oK|dHIej[n_,pJzpjI|RzKF,mXYNYdhd;)gMgz&ksJcw
QxzD*aLvkxvs7WQoDaN#K[uPftm!7J=BU7JeD+,;nC^NBac7bF[,TB!d/FPNQSvIZ!x,aP<&B[T/DL%CxShLF.S(2dNsTIx.S?Z;
MVv~$bth2&!?!ob[?ze3F5Ux@yfGLj6>;Loc+=u3TEkv;|V8cB;,+G5hb5Ji+NT<&c)#4@Vt4:%c/6kT)E*8Ka9oLYJ:,Hx=$<C^
H4%i0::h/2ZvTay@Ib?,X$m5wpI&m~_pxIQ1H:|YrmFsg1[6nvH+^XyxbZaSWjtw8M+T]XHQ>(tN9[;Xb1Jxi!,Lu=_O%uOSiagN
!Ahdr;azxT)HuwZ4o.kZWk<WbX7,Zr]7aAPf++YzV~@Sa1Qkqc[0qJ9#;NoCWa3Z<6D*/mI;M.iO7YFLkCG8!RY?Yq:!@!6dgqfK
D!rI.i)9qw*,$_716]q&@La/oIN9c_sm1v1!W~n|#2c%!@,Lo.BW/+jyQodX8)XV#j?(SD=/[jhB!X;rc<dW*N~2KHWA0/)$AEk|
CoER+qAK^O8Rc<wa=:jaYr7Z+?pm7Y8<b2AGuuLghRed.]imJt@Ju/Sja%RySw(C7Ia[LLX!<(B]iLuXyZMVInv93uN$N9qRV]g*
.$k|NK)*N(uf?=~E1ML>=,FR.O_,LU?1E@d_xXw2M9Da:n?BEfc_*|k[|>$5HoG_;Xv^YQmGKZeprUOtXWC|[W2.Q=u!cG+6,epW
|+HyRvNY/@>1MQa(4NY;)zTR$_7[gjiaKR<Phx4|4K$75N,C;aA4|=>0GA>MTX[AkHG=,DAa_*n<8CUzGHF#hXOIzhs.8]t3QB!5
Z#/&s0O?zt~W;nD_c+9*y^L|!4<J0GOTsO#Q99NgDXu.vNrDza0rz5P@zIdx0z$Ex$Vwq9#mr7d<1FF3T1Y1Si,;XkhukOzp(Xq@
sI1XvjfYjdIE<_xHf#$l>3+E8[GDd*xzEk[wsIRGyq!9x:5P#c?=j_xg%[(!w9wO.ytDSaQfmV8i>]y3SnJRZp~i,(0l1l+:~qWJ
@zik9B/txH8xjUla9nux6rqBq(e|6MQ_cvFk$NOyukFGbYd5XR77<4$*Juf4ukO*]4i8Y6&9o1kyTN9ntz&vVh$u_r%N@3eI7=hp
3hYIE;,z(_:u5EtCE^5?m)_3Ch;D,dYj;vyn>)JQV~Z2?kcF?njh?!g9:NSLm@m?JXgqJ|NeuQSTIe~WAFZ0BT/o|B;82AI/74t|
e)O2Q)B6_j##wXgXXEpoW~)&ne=X+Ym$9*DEOxWViH[c]&2OcEhyhV$cx^fvG;Hdc8&0ksa_8i##~m@Sz3FFBzhjUX?U?]0c*$$s
?#UZsmDLZ~cZ=x%t*1m08,CjH9.]xr*)^+@q9gKA_:/)os0:4Lio|_9lNf!Id[nA3Hm<*.mbE+;#:KpCIs$$f%Nknqe)1j|2z+)V
R.jz;/KbIk4(=mvjv/4/xQEgj$:*GL^bsLo_wP6NYam)Q,d$!B+AGOCPFT2M]e:flM4d[~?jEK(#Q^Z|(*$;pcAMM?55RaNPbp<J
wGs66I;.AETumCbeBx4<6,kt6qzzxRJbzy~G>~aDeps|m]_7LHK)>>%2QS?B:Qp,tL*r~/VTj38ap|p~@Rw0Y8(#;;Qkw=sqg=P+
:,o3aXDKGB)xc:E=Q?=slt/u;Vm4?@k#?)xvuoicOhB_so6uQMqw8GCE0/=_S!01]E$qU6Ogk+FAB,:z.ZJ_9,nYU<QPD/v<0|vt
493]v_OXtH!t:rYI<9Mj0krV&T6or~MvW9eJ*psu.+vuQF~=gE;LAS3b(6tZ(&N~(%$09iv+X?p>cRC*y17Wr3e=ca^w2JUx.C$k
VaRWF4hTPQSK~p(5CMh&KtuP7~_***CjNf*SZMU./5ca+k(O]mO4yI+aMNJaCd7Ql9lsp&N5&D?~MV43$!*^vAhcV.$/]!<,Wvn!
5~Og|l0>,,@E%z36A4q>f~9_|J9c)^Z+h2epdTyReb%xW|qe[RD)FrYiW6VA!^+i#E|D~xz>+oNvDQ:VBdn;W|pnPf%ws?rg+593
DQ,~uUOWoRxe0d#GjJ)YR=/x/0,m_(xFeMF||0|0;h@>W_?v2!K,/S]i5tdmmmSR~E2zMUr]<t2/K?c6Q)pxLiHX;Z3kE/^xH=R2
=:TO]rAv~GqSDGmd!8DJC2C>lR8ZU64CP_#Z@|IO?l:OPY:4]chMRU=!/%B;=/.qO2?lzCzRJbY:IlAf6E1lZ|BI1nkYd_(I8]/v
>:~V^wc$M3=9;&C5MmvP*IlTK6j5Nt<wh?onF9QtP[H[r8^ER@~ZV]UUE2Sih=QC53=Pu[AZ8V_1j<A:<X5r|A;)?6f$#B^B2Vg|
~@<^5Y$:<Lqj>e_hg;;:GKA32jBs$CpBK$?ZZ@EjGx9Dh4A<w^hWqf1^kgGkc~uKd0lryB!jqJto/$Ig1H(j;iNT/SIA?Fx!qLKU
xf<K#*lpBdT0~2O9D2r~zSXG7]Y*7X++;VJq@gs,U?Ln+?vZSg_SwxZdrYxuL=7ZwsvF%Zb0q_wbn5J2nBp+.uCJN[HFU=f$%V0,
+XFa0^3$munGtMG2GoZ*0w,qa2c,*L,I7saJ!PHoz8JjFNzJY1<g0R~.)[$$kU|?TP68AAEGWX7J:WQ%?hH<o(N&u(7;))5y9,Ca
LXm2M?LPlMyn77$^>+6$0qe5c)9fmA#Yg8>0~]6.&4>](a;f0io>xs)?+C<v>]V<1Q+J#C:7=??ky.g,/8(LspC^Nf5KjN)LPe.Y
V_$m2v*Vmi_&L#yT>O0RWJ>KI*_x!QY1x!!n337Ql6zf*<8*e434?g=9uD4C0P$Ngb](GouL~bqQw0f>hscGhQ&fPP1WMV>8CbA/
@m,!s1GHX)n@d(Nah+L?>*KcORZ^M0(A,#_7JFU<Y8Tp/.%%@cuFRRRPoZL~b3qR=RTbH;^iOPT>$9$j=8f*!F>L><IRdfYP|[Ae
1@$j#a7.PMXPLK=mI<)TA[ZeB#JQpPqcG^E)^5xc&A)FkLYvr(Ee3DfMRMQ1!&aDq?Q.NcL1ltKx<cn(4|SDZ?Mi~G1Q2l0hwnnc
VW1oCWj&sc>q3TV/vnnkqcblzrqSf^Jce9m8s!@Kp@&loN9JM~gUdE6I9*drZ_[e5#_H!aKoB<6VeR!2eNHm$_N?+w~D#CAe8s+E
(&9aHXK_qLopBq,MKm%dF?NPsvpxFv/?z&3X3,ob93pH(gaKPt,$OqQP9J6MW$Qpk01@f=WQ%Dt^6]NoL]up>:u0]+;%2<@19|x[
(I3qQLDQhHX$bu7$pdoQ^EHoEpn*kOw[63q!FL_UHpCr8jF.ecl5DXP<gzbK(|#ZY,[oH4Tj@@0A/FlwY1lQ40b1VNs8nC_AxyEj
bc|5ZN|lb,=FwpQh?Dfad8RH|)]8oCN;1AX+qc9*UK3^tYnrZSDY<0nFO,^W2t=,:4r!PAO,vw(bOl[RXKbZhkg+4<R]1aK2e.2J
=vRpzLgD4$V=qT*s>44t5*OYZm:FIZYf@wa^9z=;eKugf_NM$3V.Dz]&F%P~LqR>J]221BRO5>6k;V9qA4PEH0]Zo/6~EPXV%41d
Lh]X$k^+ryF?KUIMtUBFfl+tgQ|u,Xg:SXv6AI,3@T*GQ4EbN9%rSAAVksrDY2#Y^tu|Kw;qWu$K7z#r3Hq9Ajk<v8)6kh#Z|Df%
[[??r6*!%;mr<!^d?GaQGxbZd/hw&)ri:4R@=~Z@?[ZD#^c&Fe%PMmfyiEo..E]_KPFP3FG=Hm~bgiSvhM;llBy9+dwyGrc.zhT4
U|XqB2hz!hYjaeCMyk3hkUPEP&+c(aRS*ydI1*=3&7W|iRC3%RwZ&UghJL:uxnKm0E2h]|/FAvT;tU/3n>o^>6:rcer+|9@Fy>HS
TEkd<m>s(t.rNs(/=2|9j(<HQ<.t:?V7FW6Xf6^S3X)Q@gFc6WoKo;TJjds_M5z;5<4U[e^p5Axk*EBP@#hN!FXRr<Y;dV.PbWbO
TiuZBpt,Dz^8AjCkgNe4H|#Yda7KSkXRFwQY,Ln%ranvckV7@y~wL9j0eGNfaZ0!AW6L:18[cV3]GX%#:y[/c$?#!c#W8cx$X]:1
Kb1gP:|/_z]+^)OveoM_SPJ%J@4u,mkWUda|fv./Ler3tXAiy4#e8ay.P]5aa*57nia!d:SwKM9~$|%_S^N4K1.^$TF@:!_q9?st
u42@CRucy7]c57j(4dXd@^scDs[TUn$>)!ZFtrH@$<_;|(nk|,SA;z@QL>x2]C1fdIK@.rRJ;:Jn,_d!cqIjAe!GSVl?|k~+Pil+
JB/R42=/z=)6+.NPkp7dW9OZ0vy>bx<Y>ywZce:M8_r;NPX/5I6?=Wp_Ruo;0s$PDDha/(6/]UM+j(nzl?OhF:mTs?(roxe[4qaE
qhIK>,A8Cd|Vd>|4S;g#)QN>jKCf2D|bi^O^q%;b+r$(L1dEkU%a~7BQy.B;Z?tJ8m.U<;?z(xwTC6PMog.y_]=9E0P,+:?r]%ui
qz#V:[Qd8nmACeT/t:H[|9d/Ps0kIvQT*f?oGwJiK13YDXr(wXf=anyqpQ3BgRu_X,ow)]X!/;Ik@G]^BdvtcwI&=XaP>0k;TN8D
o4!0qpzms_buD0w/1oyipHlq!2j?~3AXw<TPbXmBOBt;x~M#96jR/54E3^sp4f8amLpc$Mn6Io6;zqZ|.]v/M#VS?L?wVW7YaHVI
QJa_q~EwGY?0N(1ye$#hpC?Q97m0g)kQ*RIa5>FH!~0mYTZm8cJbA_*KMa.ACf8>GQS4E_Ej.fr$^WvVn,oynR,~/=SM()!+y?rK
M:D!ZLmo0&qcAxaZF:Fw;V=J|ALrHd_IS_9Hev*DO4ha~4h6P;>H#U!my/46k+q1)BrA]3!~U<x.p0<Z]0cgk@BAzJa,wT$(tJ!Q
VYlEk2Q:nH!)#:wt$FC>E3dbs|92)qO|KHL$XC+9Rc9HfmH&~QM0)2Jd.5)r%>gFK/~b[(|=lDo97Xlg7pR^uLPsXMJIy.7Ek0^@
Y$,?Lx|&2|;dn#T@n|c_;hXB]:i~CtMbxbU|)izM:Wui>XJwigGL|x3ZE^nJc=PO|3PRXnAy_f^6[PQ%SB4[CW@T$Ja~oK!2;T[=
0CcLzCy_l_!PfgkW>AC[,kn<<@+H4~3.1LlJ|_SGryrllds]%pu4jc(y9c*Q~+5#vPys_icAf1_HWtC(g>VSJcCwAmjyd:fVCBAA
hyn$$Gr*y/&(xsnGgGHfC9b4![gF#DmAiX)3C)1oJB.,f.d&(sw&vn=7lk]Gk,_@O=HDXIkivRL~rd1j~>ll%=kwAk=h#NIaTiBQ
;SM!o[(92fGl29^jfntUemkvjD^[(A=Z+/RwV8LJBqJVVFqV*0~XfdmZ$qDFi]wNsr;fyaE<&f6h;c&^L[F9:%wlTo%%+,6bNDFN
[%=%fda<TT=I!n8i~E13[2>fQOSXL#(4.N9.)!@?jwSN=Ae9QZXL8q8^o<Bc|kLe1[dEUyY=%lq=m49D/Ch$/3~f:(2C81K@2dA<
?u?!p5fb|j%LM<qPn3KHnKUP]%j(1~D[D]:TIXU=z@[v#sYySM*0!__ZyuL&Z6bw:q=G<zc^nCPLTAO2ZLs4uRQ/zTZuD^AH)kpL
RjBda6[Au[iS^Z+!ErcE0Vl<cFc85T1+G)_Rj+NDF*EnTPP*2JM=6MyU/Yq()P]$S6h:^,AN,P7<[pcSxie;qg9J|o~mHafyO%?n
&.rI1SO?<Ixz<q7Cm1W5z9XfPIBhLUQFt2NHtk8aqC6~6Cn4qS.kaQ#E_()D?VjgYhl0Pu17BdsnuxO&r1dXIsVhL@0igaz;83)5
r+^,/8vi&PDmMA/k<yrNstRc<yjC2>[;KE4g)TaQ_&#l5KedLr^H;3J+V:S=P$E,nVgjd+YuldZO^GM#q,>S3,48fUF7)|828F(@
zwkFqNI7QDgoUW7pK$MY^$n@2$f;*@>$?z9A)1Uq@ey&BD$z.j:D](=p][zeU1d3]OD,.QZ[40SvB?5rSb=4j^azA<7)51t6I][#
>NJD#ZBy)G/RRg#F#m/hGa8Cxgynvbg;UI!dV#+qs/$RInhZag7/8H@ElY3&B.VZ#Fnn45zN;sQ/Mo(=Z]C8<&~e#Mp7N6@*t[=5
hxkzCQQlsou==^=BV%!8zi_eL+bklBpw)+5=XlZeknP>;|@tV.tgucd5_1P:rU.>MD*CSx1C|mbfH^@?bkO$^,zohR4ORYP,f@|E
OcAqq(T%x(_J=6tMAQSe~W*<:s/lF1~%ZahnmONbcKMqCM7Y#R8szjlGMx+F(<nLglYp.O>a:Fm~=&XQ&bo=xonEKJ@<GnGSlShU
4eF_zI7MWW(xNmn1K55#b6*43[d2+($JRJ*=nJ*s5I55!RvL*VN&Cm9+>Nn1>;H<z7VvB3/Z5!Gg/jB+cV<lW03IZryhlo/g[]U*
;Yr&%l<4jeh@]m.9nWXN[^HdnkxnW/x3Hrl>MLV,$~y&KH9%oDu#9Np8hR0)#l(k8]%^+0A+RgSRCHZtuQ4,Ig85DZW#,QCDg*!!
,O=^pF*_~O!$StBF(MQbbZGfom)8@X^d_UuA6B,Dd6*[9e**!&+v,;@qxd?:vZ>1#=]Q)lT+6Mgj3F(/@!km:XZfPhOk+2(]P:0X
E88A0jk78BW]+;_0#5fdCsqye[uk;(Zq%y0T3gn+9s0kf.&c^tOWncKJpGhrE(h#>7o]BDQnX8X(a1e<jZ>05DeYb<.T~p_+FBcw
cwNt,T#Cj7HNvE_X#_!oY9YW1S66xnesh39e+JH9=FxYu<i.oPE@:=nIhT_Xkh(Fn,ek2MmzgO5EKcu4(&&XEb2~57h1uip9L,7@
&qMYOT=lTvB1GBLK)?$F[Jy/aTVVBAC4WeKl&.,RyVg2vQ+Qzbqcf&+8*JVIsf6u<lP5gTXsUh4Kv7Ehdw~^r4VyQl$)<SU#UvG+
#T:Bvd/)=F,yGRjQiqqoEso0ot)uvXBR]X/x.4U8!ISyB+kJmB8xf0rvjw>1:omziL(j]?alt2vsQ_7SC,!n4@_h%=[o0I~[+K]s
:HCcmrVgX#zQdsRDcm0PvT,HHIC.e<e9Lc*a8MH=J@MnKrzA0/[b/V+[IylY2[M?6[YIWGKah*FSL~)BW5V>nb$ZNh:?cIylh;!_
tXkG^b7iU(:Trxdu)4p^U7q)&~tXvrZT</yY~$SmdvsC[PaK0,[k]jz=MQ7x>_8g*N)?!qJYF^~5aEez~H:w,Q&R*tlm~nuo9KcO
JK9d*B^e:UeVeA:eGC$^F|Wl3ST^I)qa9d,p>UawyD9oHzxxV07h:<2BSUEID@4b@34zOx=R@9Y#H0MB;dYSfG@$TXG.T.q>ncl/
I6yy9k*^Xmmp!QK5E@]HDn%[#6HmqFMi9r8z#b@[%ux@:q#w!QH9),g:xwb6(Hi6.cZDv*]?j.CIonS9_ZFMndCb@[7!5N+?8(%T
(,wk2m,v@<>[W3@CSTEsd#o6e^3scEkfk/!QbeWGu*C3n]$Q*p0FVv<[nW]_N?[Dx#.OK.D!]RX)(N?12F>=Cs%#uK16J/YK>3vW
9!8]*sQa+Qi>)<1HTKfpDQDiVk0[y6>f9B*R4n2%/p4.T3+Y<mbxm>7%t0@3b&0EFqe;EWelSLdC=#_bvCa.n]_y8LXjntQF&ymL
lAKPJM@g>7&Q&KyW#n1MfpH.x9tZw,#9.6c<KUhR5vr6b1GXsfw6WsSD9rcv,3(3Ix/fFVB:!:53W!K+.RHc8E7S&ar$76Z6Y#j[
]&#J=@<O;i1j,.yQ_Ji)&[QssWh_Xdiyt35V#Lvo.[Mux:qsk5Lb~aI_roS+19~0*A5?)%DbU&B5cycGn&J@b*CWv[>2hLy*MF@z
<>aYeR_eZ&EfvJA~<,8DX|C#P7*Zboo$n;wXP_sF6QkuVr+O)cu3yWt|qon1e6)J/@NRn4IOw0VaXJ!)KUnDGH&yQBRY%br.t)lq
WgjmR(PY;2xOt_j[Nk.M@YY;X06)j5NFXJwU3TPEZ37CE,IyE$Y_ScY#5!T9dC6i8%:;(DtBeMhHg:@ppZNv2y)!?]Q=i)WS>+ar
q9wd*bFSjK8,0z20u792Q+^qkmVrQ4Cc~!N+fAI@$JtPH$h>w6QLA$gz$$Q#=nO=x[xKt.n$mDKk!Std!wIrXk)hT2P7_~7GY82q
ZDxY83BG%SigKTi2s]2@|/K/D|~g)HW<$n]eIP6N=%6gp;a$%bqaipR)kVY.r@nPjj|a=F0Sxf|AGH[K15GA7x3jearT$/=gXiBQ
i9>O>SIybWzG>:;#ydZt@Shd<k[8IXy(6p(DS2Dkt6TFKh:8)evc3/#>^be4~/:_hIK3Z#Q,iYwp.F9m+?I&02beRz1Wy[D~Kg73
:Nzbb!|3akH(#^/Khi8a9@H8+,<XE!CRnGJ;YbWc.uA!faFaqU]3PQZm7#s1R<P|!5VhR;8w19rUo/Qr*bV.B^gXbp[]!7d<2]C&
/I>?9d]**xs61,1MwUh%wG;YByX5v7|@yNNrvv+H@U%NeJ+_08]]:+;Iso;=7gD3=NxvAEH:yR*U>)a:>TO[COVgQ5/Qi|I%gFZj
XB|xoaoi<t0B!#XQT6.n>l>j8h_+3s%/V2Vz(2?B3tL~S_EthJ%%EcAVa&9_0fYm|]:or0*!jOCJ5|Uh:MA]o1;G3)(1h3.QQ]_C
Z5(H<vb1Ag)/h_0Tvm;%A:;_=!o~])Qr)%:Pay+YM7MC=#Y?)y=91B,Kvpve+0>Y@QDCOH1ba6E7!LV*9_4M=qL&SIcDRKA1[Oq)
>>u7cVPa2@R*oo9kKjgMxGJBP#u]0L?5D4pi[Sq[M06rXHtNj:uV,vOu/SuHh1FhJC.FhA[alKym5QRNPA#/],FD]bbOzbgMUhu$
TEy8:OdT.CmnnayhFmz4d!~KG+JQj#CDutXIRZIZ95?:Gaix>@W__Bn~*CVi0:00jv|^4fdmMMKOxW6V5)>(^0W+EsOkFfTR&c~~
X=Ppc!TWQkNi]JLIRAdb)kpb!$Hd45104$+lpQE;YnL7U+pq|hhxHbhtRIlRc6Yl7zR52zFu4Z8l5<T8>j*6U,5U[++$d6t/lY/,
1(6(>tCL=pZvv#tqTL8z@;(fkDMuBCzpGK:(7a!A;eBtO?+]^<H[za=ab,IZ~Y^4?:[JC%V[edlZ$&Zkd81(k)WVvp51uJ*PKdRq
tP#o?ja2!z~E%=$~.c.]<k9acRqRk%x^HQJ,FbO=9,Akx9.lcb_)Efx7JHExyG5Dc8w8pg1?,=eyXTxl:|TH+V<9r$47o1|5F<b+
GwD:G2ElQ>L0Bk+m/];bn^4||M.j$@[YR9tq$9S?h=_UIy46C+C)R5S(E>$xpf1ZsgdIHmI=/uJ<*TMvwXN=Y[]%3owq$uoyto.W
i!/^qa^B8,H6dar$pP<S?Re/%hpG[ox_L0NW2hR=Ed+pY@Kt3FD9hdA2.w0RmJ:+u%x5*X^6yhbiE6s^85giI:4q^se6TB1b/1xe
LueXvf[IA,V8DO5fBUn!b2fs_?^V+fALH:e(vFO(N;#VjK(RfM6mK;u2FP#&(NwzZRpcIZNIsEIhwkgf#I&pr5@2@eG#@9kl(:^y
R*@N#qR+07X%hiF|6n:WEW>^AX+K<h[M<y8tfEpwVWvXjYJSuH==@ZNR/1w|4dAiAqbxrSbc$XhP^#~8swcA|~6%x*j;BC54*U]x
^MbhUu:cg1B@B5Mnmhoq|[G@rq~pMIlx=I5Z2hvdi@jF~8VHVJQp+1!$e_S<=^H/^Q7Vob:kTa5Ffh?eoa:sw?f&D^A;cw17lvv8
R,g|:J.aa|_mtpy2lX(/udcsDw;wMW;GCNKs@XJ3htt;dvs?iKXpXh$?N1%!Esquwr5&vBNArY#:1Y^w&u[d/4uE=3]mbk5e=A;0
_inxPUbV8hZOoZ!zIYFmcV&V@nCaz8O7?RSLLL8^Z!asi>7K4Xbp]=xgV|gb4Y~=3jE7#>x=wrzifMYEA]y$CzRM;GOlZ)L9P|_m
G@*&;)(ip&g7MQL7Q1?c,Ws8*R>y::!ejbrQzq?LHP@Kp4dJf#1/JBKePlcP&;k603Ew/D%HAD[BY&.y%FBD7;VkV):iBvtg2?We
n/VMds>gZ;DR1H%>/Z>KhTmHeq/mw4;puWxjrdEnt^j3Y=<E&Ah:YdU.Qx!)I9U~06w(A<8jlcVwUJ5f,$?a,*S:1ygw~bpbE6(!
z$ieI!jv2UB@*$I$bu|GKFSwvR*6es/5Szlw86&&j+6_Z?PC8F^R(2z03<W^T;R~x7>EF<k:PIm,w##MHQC8N@M>sDj29c?[Rmp1
<?KIA6x86$IU(v5kLycjR/k?IYNZJMi@;jb.5>d;P^pc|0?u+TsW3ODtCy>!x0(qEJ]?4=|Lrj_+y,mw&ffa4QWNEj_G?mza=.+.
v!I_^?UTV(wBE23dnh^?^.JF,$]7t.l%dGRq7MRD@D*gtmpILcAUpp@#[kH8Nq?~O3,d,QQ<I*6*j+DBU#v6Y|!3BP=JGl|Q$CI@
u6Z&_GER~%B.u3l$Oz<dr=gZyI>kbE)F2t)!z,_#6wZ]C>)S7lpih5m9x9o>[wR+plt@q6^qw&tZS[~0BHZiWhZykJqqPN4~_f.x
u,@vzHePc%0Ji[*T),u6f)rT9+v!lp$7sy6@qox|F;%O2^p[7M)HvpxJ_PJQKNZmoas7&goqoP~+iLux5$@<lN_XB:=Oq@.i[#*g
?l3>LQBvY<f5J6)En<p:bSkw1SOW_icd8^qSAgDvl|N|W<^r43CUKMP7z!<1&?g^x[nr)SqO^6KBR&vx6%,UTSZqDt)Oko|xybs^
JTAyUzMsRvo=iV>J+E<[LFAWOg7XC170,:JjI5(R_qqy2@gO9&pI.&P)[j<Zn>_<:*Fhe6[7f!IOt&_:FOHt0Ul<rVtwCnr2i181
s$Pu=:d8~/=:F$3YG~gx@ngA@M?[.gUZC^$cU3q2MhVYf/btF]D4>w/;(DO4O:I(PX_s&K0v^w)d#kDeo8gXK+C[)CbiZ]4zpF?y
p4@#nRnd(1U1(clXYpJpSK=,v]dkvL7u4c~haBP![gAXMlQ+%r4Cw(*snc@wr&(xQWSjhy5dGTWIn[da2PP,Kno$R6uWi+IJUobJ
G,#f/AfmSQX0Z^bE8ND:qt>)X>:kjW/>j25cSPdea/@@r9XI:w!4is|T92pQGhL#6d]HRrM&:WOVSoKPvEWaGdKxxaN]z@XTM/kA
([&gTS*B<:Hq/02XZm$HS0)I%S7#8nWj%KYInUCTXmOk.D)A]Ehb*)(0+bf7lINcOiVgLFm*PXLlPnuMI&?;7:uLw$V:rr4n@E*G
m!o,6TW92mGC[0xDkpAS_s?l*==<LBnsbQnKuY>4cxq]tpI+FaVP9SANniw!n?qUibRVgxCOT%24Q72bf&.AC~jYe]gSa9P>xq.4
W=LmHf54EM#Qj2rqcT#jX&wqJFG5d7QxN:%)8bC<CU_n%O:*kw46ywA362|#&DxH>;#[NZ%|p<pr8&lq)/O^2&LQb8uHLDGlu&hd
y7khB*U[Fok@yre0=FcC3QsI!ZVH0Y9VCL:y4!fe[f~LKbq7z[lNx<eIC4H5?Jjqgi)?$5=%,/.4~]*))6y$f3+Py;~i#L=bamP:
cAPtOOPOH3~Hhq*Z,8VE<,vajm(6A0@0!E[e7.AN&DVMAN:t>H,TV|9,RPH([xhoQ=ap.eEGC~f)t/;tetZP0aS|^A6xz!X@G1T@
(nwn%7RD8>@a+e=Av|IjCq.B@jPMI2&S~ag(8>*UAJ~[;foMX5W1x95[]))[*)$!P/+=Vfw_FGV^([@|L|Qy<B0r]HZEO_QMZ|jE
KxP>COAyvTs?_|Z_BctRCu&nL+C8p1zBqf>&0/v3qqVU+52wF+,sjl03L,yg/xf]A,*L?i$)]JzJvb#(nsQ#JrF^rT9VeA]U)rDy
IYGfOR/lOD7kedURG#bAh[wSznzi+fcM~fBkAkU;xlG$;N8^c9q,vBSD/BI,$LF[[JZrC5KdE1!yXhYxouyDWBW$/A9&T*9L=xpx
B;~K_?:7,#AfTcbS![f?6O2CW9P!E_h?P/wIPhGdEHL8vr@bQvt6<WqVL]2afp</zMwV[#P[K:1dw@|[lu1CL)b)M^Nq&s^W]UFA
[~<d=L.p0rIW..Ve+~pWwZnT2CDGHa##Q,xS7ri:4d/zC*</V0R2c<4o3:beE>LQrhA1m@g%ECxr)Tq1J$2BL,_;mJHGi%!OlBx~
WV/td_YQIE7l|#[IUG=^r5rPp73+ebGl?GN^:~DcXqtQGAL[*@=.T/LJ)nnefjj&_D~9~WD>ui5KdGp_N/E~UM5]ji|UrAw!%alx
XgF#zF:ii<H^Ig%Ve)$rMY4.SBKd=vGCSX<=KtzaH4G)S*|77ID;O3SBv[2LbA5khFxzUUs=e,y,cWo^J<(a==2rO%[m&24:eyS|
.~]]!Y$>:Lg&Zz1,B;bX~L|5A1j*&!d24|Z=mRiuD(LP_a)B*r5*2*@ORvQl_JLeRlx[Bt8RG?lR_6YGof8p7mm9kF*5ez7%$5(>
^H?F40h?JPQ@;Pr$1sxK1?A|FkTvv6|FO9Ajc+sN0;wL@B6sl[13PJgs$&y9~W6BtTj]lxg^@NsA/g(|^9:E//HV/TVH]AY?6<h/
IG2=g=Eg8i(NZO,b1(hBlt%D4k.B68uB4AE7Dak|685w~]f2AjD3]~n0^d+zN|zB?+SSas[2M|h~A;]Vrc?+J+X=dg@3]~9u].H:
H$j6@rifR2a<jP4Mquy./@LhL=bTnKQ|B[DmoIEjeeK$FFmju,RkSt(ONH7(*UT[BP7N8xfRMtLIysb<;IrJ)8=>v:#cnX^%5z3c
.g5)V;<&:j[2YLAZdbZoh+/2=<oyiEKHvP@F)e;&@Po5pj2cc3^A?xv_F;0K$aK!G+Iz/W|Lzk#QXCL*MDzQ2O.|L;7$xzr/|XZ1
S5P<gFqdlU*2i_^xMZmW?w5Q$<FTgwp40?EY#C!H3^vP[ribXC5zpecu]VjvfGD%Q:GH@H@O/BM#w~uljrC:?R2WY~mCRA/w~z9O
QbkH380lP(hz7.L23zh&iy3?9y.*c.VU0Z4#z.@GRa=7/5O|W28M+R,6zk+KX:*nnV,Dz@>kFVz)*]xy5!fkODNaJR.q)QIL:OJP
]3cA;twPV:>~QCj[5hvDt$^G6:Ox$qS/CWMn.iSTvr#>CoJ|J@2ieT7u[0hi4HI[9NS!R4NS9X5Cd]3pPBVw~2@.3CeOUfmETQ|W
qoagSz*Z(VU|V5Rvs,(BvTc^3rq/f;UF87Pb%#jl0TB9#lv@zelL:XpSj,r5b5OA7Sf(L<x2|mLTaqllj+|s5k03J!U+@v92juo|
[~gjArf)$?y|6^SbDEixF<rF=!Jb+gKlN3@rS0MCT9@Fu,k%)XF>FwOfgVY>ud+LT$l<,1N*)$.[NS6x~8c<gV|Com0yQu7DgzP%
#E^RE7kjAD.UHVis:D*::$p:FB47]#:#)a2^~;fYz4G*z.h1ksNT:*)U(g.]FrK:K:H,AiHK79S,O,trx+x5zXt8j&2)Iv1h0|4,
sebR,kxMO9eJ#*[(|!Uj+]A~1j6a*x,vhyx/nb3uu*;:25Nub34(c5&E46pbz+=C(>QM8:|i#<aDJl<0;Q%to&1VZntu#eWjr<nS
ii0j,Km?$0j_e[$)L*<7GNHY]U$i)DJ]a%HM_Ir(UGS<3l7Nsh$|sN.]WO:B6v7tk7]k*B>Bfc:,gke)#pk%Ba[@F%|<?6I$?)R(
(.9L([Zv.dR~yga*~g;P#I:xs0%z7Yq;?HAt[#EwV$QxV_Mv2ZGwXyUgH$=[uA1%.85:v,OvAS2$u3b;eu?XjHH0Cs<i7889;0ns
d7=#,>i&Rg63XNg~!BE]kz#t|LZi!?HPZv;~rQ|;v7I[=4hNwSpZME_5ur!CPr/,.2HEs~w7Z?l,jQE3EdXpuP+SBC![xgufs|&d
_5XwF]Azve7[|DzI,T_@XcjnfGLi<~]0_dKie%m1GBt~k(5/E,zz%/xd]j(0a*OdsT>b2IqeuW!/wrE_T2b3%FvA>]G*)+4BZ%kY
R*k@%<krTVdA4lF8vD<)f.^89je=9X].TjJpMmh#nT>6QmRhnb^6_z<xs65A7P6bZi:6Ie29*sINdIFp$bC&$_>Rg2^+rN]d4,Aj
P!@_xBMEO45S$)|m!Jw0X(wEPJfy*<[a=CwCDxh)$&q)@%OD#E?7Q4qqV427<h>hL?7BQ&~a9XSu21!z2IRWzsscPYv[CA9hoGzZ
$%WLk9Iro[42],eN;8$Bpl,|b6beo[F8o&A!K@4x_i?9YLu@z]6V0RZBs!G@)(%#s]<F3$U.5>q,$ncoGx<?@7Z4kd&6mPF_Q~$+
%%tm6;iC<KW@bw&|*i@s%8qYK0r2U$=G~kl$EaVlvg%]ssfgP1kz8.=OX!0E=UobB1>bsP9Lrl;3DS5I4Z!k<)+WuPtXP00/0FP2
.l5zKJvQ~b#9FLQ@v$5M~aY4p4QCW3>4XqQz)%myLHFtjRp66gKa>gb?fpFV@.OxY+hk^35H<s<HuMN*4HN,<c.Ed>NN~g69RF%g
hkF];Nhxkme@=QMmdOo?$@?g4Kr^X[Q68dGsr9Ab0b%yCz&]jo5Z@|xAOt6@@+!e_t0Qszfpqb5OyA30*+H+rRzE;POk|0Zg,I0*
!0X85eU4bD<a2%$r@O>T9JQJ|yHM?xeKbq>lGP$:J5.t@|~@ON_U1]sNTGS@VbHh]0zJ=$vK5_%b*~$|d(?au5i%e00DaOGj!+(s
,RkH<v~,SYwI@fX|1A0;b@;tsNAlQuRGM9T;hlcTU_nk7=,U9HQU1az=@8~P3LM|CoC87swm.Z_FYp_t#|)n%0B6H?DbI_*3Ns7F
]Wqr)kB_zqW,dr11JFyVs/=KPyeT!X82m#IMg#r3AeRQS9IaLH<n[o]2QTxu#eq][=f24xrm(HDjds3o7C^.A$bF[+^pDM;h1+$n
T6/IIERC!wy5v3O72>zA8vIgEwa86K8e&]la5WN=,=4L/PPU)YnS6.RN3jlk%&N%?xBq!10[sPS[4#SFv6|Ok.KWH|Ww@jhxRUjD
m^%&o[[!Vs/x9(U|<gFn@w=*i&Bni40*64Y8@E@b8T;a4%ZRGIa8Vm8QPfj7YbR^FneuathBN>nahpqMxklHhufP/d&D[)]Pha%t
ua=MZm<0BQ?40z|EYg1Oig+1<EfJq1Nuo&~_jK~u+/<2vZ:V&4cNeb<clir$2%KkW,qh/6><%oqvW^]kkMoEA3M3Qk_Gx/De9o9G
;=NM:czGt4=$!B)nc33#7lmQIEaWVAYcPq~y+p/^ut7PLOMV1DP.Z*?m.u5@@$i%bNL>SmSS,Pq@g335uH>>.Fo$s|q?E5lxB@IY
6)SC=:HV*dNm2[_E>[=]PVKYFcJiz9R<g9w]2I?QiP~cd1Gnpgk+00+dk:rtFFgJXus@@Kb?dj@1W$)w)|wl_ZO9E?V3K9.B~^li
8#!2c0~y;DXM4&ac~nWg8g1W886vhSJNdWIMuwctqpJw:2yo+,YjC3ka.K[v!v~IkIwW/~pKal+Lz.!.B6W9*0v@h@~^XS]O;6##
aSu!#6fC[0<[i/Q&Ivnr.ANCxU,1x|XGg<;aUbl%O97~/DznqS1aym1H~%c.L/U8ZDagxG7z>_k6+E8LqOSsILGZ;rP|slMeS)3N
])A&M4|(evvJjELTMS0slvHI_Drt=^1hjZ*B7^G!Kr~9Ie%ahZM7o_OR4n$vA#.ey3!o(Ud7U!1N8Y_WO/%>fz;Qa%iILnz?c*D,
S|Z5>U5SKt^M?=1$j99l~)@ty1Sd(i/|auzG|N(8o#AVlC](>%U1UY=/Y.99n/bkiC?.T#@Wm+#W|=zHA|O:~(=C%.Zq&U2Z(o/A
0A/z5h%:XwbeCIz=d1:kJfQ_T1uu=RJO)B([_P0u:aiA3bLytSL%uc8NGpFyFJX=^O<Gm008d9kW_M:~JTWZ$Q#ZswH_S~9)N1Av
X(MvhY7)Mb)@ma)G+(lVAU_hJlQJ?;=diwWZz@XqqFj:+3h>Zh=>]58K_ZfCGj$Ez>_K;8r/TZ<_w7u/r76ynW&w;[cXau$1ZDQF
^GTB:!a;j%1(r*5jYjxwlI_d2LRi86nd+5<?jCI0_Se|MvC:JVLH%XFnRDYUqjPpg%v$:;pA)snIXpKNl@lwwM?)htd_JOsS17&g
9D!.BlplDh4oj3+$,#LQqV5sG:VZAY4OmMtpB6eUDU=ktn(]sLN2Lj>o5a+Y4y?hh9?wDL7O,V$w2GzNmK<;6ux3!nEpR<@[LXV4
E$JmzFKDf7@_ME>1fer8[+dK0GNrjaxE[/j%|,iK=HZH??DTZ1:pNaa*flz9!00e7Nq,oL<.!P7^Rv#6TY(TXErX~!P&uTg@q8,Q
8,<|gzSB,uL!DbCV&FJc6+9;V2PB)pColk:pA[tj.!?NN4vMhjw<ecrTuXO7Hws?dxQVaf:P/$IT%~V6:7SjBv#TO<C<Kg@@WD_k
iDQDIWRDAH~kt)o~;|lv(=IAxEq_pt;C;#[mQ%d8%<fm%]RwI9^/(V:Umf$WrpKTB~(Qa0Wc.9F|p2l#)O$|tmC*j3eQ2jX|S?0r
NP8:WQgFg7|Hv?deAL[GFSRr5zI.srUzn]PMe//Yza;>?CRQRKtvkyC]^sD5?a(f*TQ>u/c..q,x/zMp&yUTdOs%Op,&HX3Yj9W)
PP)DY>]e@0~DaYt=yL?h8cWr1ro3gs79vw|,kRC&|z7VaM:2Lfjymb&AdzRmiC5pBAOm&tE2>ZSKsXX3pTp5VPVA1EfFAq=)E([Y
D8Qbn*^Iqsf!C:$(T;x5Bdj8@$8*h.Zv2[p&2Ou5FBilad(Shs0UR(tXy$nQ<t_ld|B6:K)$p~@~Uf75ccoQsz3gNXpZ#]Hv^F,(
,*/Qn7U0*luDq:4zi_9V_i6~3cJ*|>oql>24N5rmaFVJg8;@1LV9tExfA?d:U2zS,bF)UPnuAYyeWp.Ca[AD;.mq8.NIi<![&99)
)$S1H!xX~8)y#yaQ/W~6]!_Rn93ih<LT4rUdn=b8YRcL%sO(Tjb~hC8og7iBJ^lww!M7vC8#fk.Q#iM0H[Ybc4nCy;~3<;e;*B5#
%KW*Fl_B&y*v8^9gc.o.INlk+!U>kx$P~8MZ7>~p7?NO03gu,eHTQ(^&o].eEj#(#vq9=VjF~E*Py7COgiF.Gd<2,V$d)r[LgqA2
,F%x#sIM^FrYQ=eHv][u]^s#Q&%S4)<_FJ.UCK6?Mtumr<b,fb[tY/#bfdc93n_m3d~z,EN6CxoHeAc*Dh&dKoo9tr_DQd8%=5zG
Y9Tn?*$yq|Y&c|N55m+sCjo:b#%(L<ExJQSp!C$(bxig<p!G5iNK/e98Jhr82e]Wgmp[+71;$5#/j]xU6NU3m&J6f#|V<!mN2vp,
%[wi?0Gybx;?1w33E@8%7svB&p]0niq:K!DpdTapX,w7TIVoo|.,%/!)VsHLG)T<CsdEE)F3J_Ip@S|5/w7:*?8YJl|FHyS:R>WT
8j96cX7ko:Sc7Y>El5gVZ@(6HmtuP.R:eFXM|e(I/esBFP]XPyPcWhRi.0NR.s+BD40B$PR$HK]YZit_N1:S9GvPg8p)oWm*D9%2
>q=v!]wLH,+4U^BAT+gtsMu@=Tu3ON~gA$]2,st,OUK+E!NNC;;nJWW74,8l9;$:33(tL2A~I:MmR|G2dpl&50/]&j1Zjh_4Z&1B
)KDv5WJ+=$BSTw6C/%ff:Z^)t~#T&vc87~WgZ1g;.mwK;wo:~o&Spq#2s9kZaY!BMk(N#B>V$I)?2MZB;r(myM1)d(rpk>:BMr(3
[$jWc]=UHnA%FSF=$[X6@BtZsNOqoVLkqNr2AL&Kz/,=Pv.Id(%VGBC_JjQ*=8HRubEk[wmKo?Ubm8[Z>t7$%a(*l&5dwRyjt4=r
e=uqS@uNqY5lW[,iC<3@vEaiu(R1kKnaI;_yj0h6cpG,cQm@GaJVj>o1rK#O]kHK/Z>|f>uoMXx^0ru22ubd9HZF<&N#Anl+*0|U
3B~~oY3F@^laz[uGsmu;DzR!L6W%Kn>$s#!nw!ZwC:6/2r0aQG+wLArX.<rxmU|*pKfWV53glkc,D#6;:ILnu5DY?[=cqJ/5D7U.
H0nbrl1CQCHW,1[G9g~!+Rj)=_qy>OSHAbizL4MJeoNMh%9;dWHb*|e5no%g2cPkV9(/JB7ui~33b*Zy5I$,sIdnUh$<|TF#Eve^
_Yxpwc~8qw(j.i$^AIQn(>,kwmmmn5tM#>ZK<hq$3O+yQ6,EPn_BbgE<=TH>u+pe>f&=fwdqW6kmf=6:||8,@@(*zmU[jp.$]sMD
6U|_TVjpo0,(6$eycTze=GXZ%8nV[9^ou=nTOYx3OopL.TNZ,LmK#PCuZgt[PMfqvy+y*Q(+@e?=?]6j=)0ui?S/e!0)>=_N<;!F
F~4tw/Imle:LJR0HU^[FkQyE3>UC.[2iM36W^|Bpb(m;jij_0Cc2S)>h>rr9Cx5vpL+ln)zvch3*sL,y?(NMnkjyn@ygTo570Ge@
1~=XZn?6X_~204SOOv/D8gCoA+a_r~+u=n(.uE+de2ar~Q^pAWQup2$We[nCfI81ZIJ9u9!(3RX0vlaHCo+5:Ud~:=xUlVt*nx[x
lm7J%m2(tBmKbNi5x!as3O>I[Ks/vXI<N@z.1?JMBv,V4g$@82Kj*@)J)8QIU!rKsBEzaW0|KP+l(zcBRptq.kn!6hrQP_&mhh@)
$T/&/$CV:b@gMfKYldU9jky2LAjA??rKA>slaBuzN1D/t5kQ2G_k.=>603SIy]w=&+aSIbGyi@geN=(Nce+E<g<H]Q^2Rk1q+3Th
NUz@tsObkp+=z3hui|V1&#ayw0_w#z$6bl9m+e0aeGRZ43rnW*z2OfOn<9tq#%k,8F_9&jJI?lVPk#3yD5u%XSr+$#L5C+QpG*=]
R2[&ETScGwg$mqJOBtdhi:KFsUWocacK..U4Gu1#<m##.&[S669M68+VN55eXM~(e1iH4?aFb~zoeP0i5;NO@.IbFrQPbw@.Z2]<
$s<>,Z_t^:CX(x9&%V=T~!hS90b>&$iim|2FzcQkJNp6.yR>V_xAuL#JS@B86S%I59R@5tAgQ237wmDML<z+EP*s!V4LLE7]VWBF
ZF|E[N7o<,^E|d#IKLD4s48w,~bk$rOD(F+gn4g|Cqd~DDq*bYa|g&Pz$vU1]8U0z#<m2+|3%OgolF,eHtW$SAydl!B(R[e@3g3>
1#Y:#e12H%LiGnW5Wf(Ub|$l%4[[h.8zkyiZSz2nF*=!3WK3at@[cNn[lFX=r>9=pB+^)c04MbfSN,tXzEj5O?u(ju].fX9(TG<~
PVyom;v4wqt?ccQg0bV5iXI*?jLU>(s(wz+/#10WK!,QN_)fqq>Jf9ME6vd]@Jo7p4KkFaFg[j((&Q$|Sl|.H0Ax(,$b]u*LU~$L
~O]ThTP!+jD%~7&!]]g,78Ez_3Opky_HRQXG:N&MWS&Qz$Zu$6dlq*vN%j$:IWPZjy|#Ils*ZVn=:hj/9rzn>uK>oVh:wC;$mTed
.;UGOb~Ka#)2@N~4fV@rB%BJ/9z3La=<0Et6|3;flC#78JNhy2Vw<53@3TIf7P5;A$1Q()H7|]npc4bHy=&?!nCP&49L;<)@y5li
(t~d?:Xl&P=;xz[hA_0O1]5hqQ.G,Xc8r=<VLWZcKs#s@2Qt3<X_R=i^^(hR^!f$67lTg?gEclGSnRaqXS7q%Z|kk3wjaY)1cy3A
Wxxo$.v.Y!YxwxM+7HIvXCdVb!63Se^AbW<&zwV:q0BO@YX^]J5$^!MzmHh)0APQK|b+L#4V0D9X)UGAPn+IuiUyk)mrw9CL?!#E
sJl92^]^ubMb_z,i4^;,&4?YpxM^YO4z+3w[&IZ1B6#w..r=xWrZ?Zj.9xgq>K:zgLDP#E>sav66=Z]%yEw3w(8)_qy3CrK=QC@|
p,~2pmK3G%UHrc4_awegbz(]T0FW8UkY|]|zc!ulez9Wt6OEATC4dO8Yp%Bn..@XTG<ZZbyNiplQjhgF:r4<+uBW,*h):<&FE,o/
B5zy!J_LBcX6Q8&<eu7ls.C)LLP>3tzc@c$vH;OD@1J*&BQq*rbZkza<1uMK,1o[&k!k18WiDx4?pECO56,S%%fLAe/Xa!T$eFXO
qj/Rg1Z~$WLVpENQG5U2Te@CK4+f^yhl@:#c7U7U*pAfb<|h;^=ii+|k8K,EVqXCW/oq]gwf95LU_Kv/2BV?yHY~.dsV3,)$06CR
dPz#lV_/bUVHoFWVN2U##kcIw;W(;ZeaXRZRt8A8jb@=f9Hv=;3G1phz+R]P27<j/a*Ur[iVnDf73ge2mmfsNU|P1GG2kE~fZcQ#
?L(*T4,K|;g/)@E:qmOCFi7S$5U=(oPVW1TXLXqZt||4Z;.LArr0?R$cP4PuFk@f@J4mib@Mt:HUKe@4^Ivwm>Mkg@9mZ?dTVSuN
y;hC%wCZZZgUb~oiF.RB]a4/v~Ez[<%Dor*:3D<<eU#[[,rm1/gO?bLy[3s6Bt#aTn;e;S9)ehz8s)8cU9%sy#]_FrmB2!UD)EsX
n~o3dl|3M9BNiW#nnyUZZhK5+):>s*AS9%#5:_;F6S|:vV0A#gs=ls(,4GUQODYY(K?yiEJ|]<$qs)gQzrs=F~Pl25u90jgVIL:g
]J^Sb/bUUAIGf01dyMF/Co1wD)|4Fb?36rAuK;ANUS37$fr:k>UGHF4C2Xu>;gl7+z<z]DTTa((aWGJD+oh4D*?27K5NA(wawX+?
)MmE!~p,E40%5xEJqd,7kHQ9;uwCh3)=4O^_#3oHdJ?t;k>P3Q,!ZX~3t]&<_Ny)8yG7OXtqXC2DRTS.qR&H>rSI%r%]$ek5<;iw
yPG.;+6u0.z!w;SeaXQI@$4?V*V|MRWniC/Mr:&$t_Mo7@BJYDe.5dUU7ph3VT;<qnQ|pXGk29Hr9=R:4IWm)=2=u&%<~AvN&Naz
0fj.3^3|I^DzF=z.Q5d5)naf<ytK4ZH^SYU+@<HhJX7&SuO!,tyrN4=k5:::^vhTdJ)/hB]$R=w3i<Z3@B],dY1aC.$74T!]0nF)
@Pj+K:YwtBfiRrnz<C(b?<!>rr#YhHh_w~]t$oQUxsM4FgFTEHH/|Bi03|SFaKIAD~1e9RkJug567<8RjkY$y/Nh2bk^_^dvV@E(
p2uRg_>kWRA(TF)t*.:Aj3W]d|TL&k*9rk2~b$aFDDxWYlRGq;]tilWqtE1:B1qfPPg^8(F7uNuMd]ixwxb7@/K!NK3pB&s(sfqX
eUdLk)19BUQp[ZATo[YZ2,=X[!P&t~VH~cu6sQ=JQ[8yZQ!p@I?mMWSqE>8|rGNg^=8wj]&>;u@bSu:qyiq/1JV/0+R#Wb#w/>Jv
<b!MbCgy*LUlQpntOUk#M@V7kul_8qb^Tej@>~I#Yn[sjX?V&*ipxm1A=Z+6&yTRB.V|aiyA=SFh^LJt/EVm!GdYZ8ui8tW;4I87
V5PU>iYZB%4k!3(/I$I@Y@^Is9VKztR;;$HKv)K[J6QdlT9x5=_g#G4D;3/2%uRYi7[FEkM9Rogr]!6V[64Y(2d!1>xgftHyqd.*
j:vJW26fFknVQvCAU@Dm)*/IbDFNy:a2m1ZsuUgY8|al2u|jN>,ih5O5faJF<u*/^Pi*w$qXa;QZjiAk__Sj[N1dH$GRaO8x/&Ow
SW7yI=K#9lyw$FFpGJU,p4Onv38[c4jk;Yf*:_[y+YEE78&](PMFUBHk~Sq]exg=54H(Bj@s=VV46*Q0rk<PS;hWreWzGz;rG>ww
yc(sb&FFRVNhaARnCN#qx=8gC%A#1*O:9PvbnfEbKK%kFAl)o*xmet:1z+2SeI%z!J.p@f@A!YBe!E3r:WXu9.jqxB|MEDrR~JFe
vzJG3T;*)yw|KBSCZ/gD+./,&E?/fe&(@sX8nPxN@JD0A6Oi~#26HSk7a,j%Rzc%6/9qNi>n4KB0a3!<WK3>~2>!p=T07*VH,CZc
tvhFYl[XgY^:#w/3&(Jr;Q0HtQxZe?G[|[u1v/Qs<FnsuPx:0*J(l,x@fwr5K+3~xp9A51>0R(ih/GM_ss>Kuu+S;CPbH0=jCgcS
zGP5.)iTfmK+n2$uUJ[NQy(qRKaO#W5Ef4j#4=O.er<4GdQ/ycc_EZuu5sgC8r0:fL$&n([5Im?zMKw/|Udq1iR7>+WHz|g%=I=^
h[X$Lb8a>e08?6S6$FysoI)MKnJea5?<fs$qQf!my1g5wspqbbfl[2/0>c<T%+ZZ8naFn=;u(V9qX%.Bu_MUQ&L#,[2Dt4Wsu$xF
o6VBQyR1o$=z*;>#)/9Viq<iB1H8i/o+~:2nfTl?sDjm_~uvJLYhf_Db]T<PB17;J0jm/+dml438:I!eJc8e~o%&s.Pw,0RyQnX!
fEEZf2+k5TG1<<s1!F,,UT?X(J@10mFWZE)2B!CpP4P1Dx#MhkL2%./S=UTk,,tGkh:An4?G|E<O~tI>NJZHdF?ej|dX>@~nyJ.!
62ytBp6Tkh;X(345D!OjQZ|qYUeF5,^bcGj%pb3|fY>W6Q9VfjgD~8[j9K1u9YT/tQ?)tI9%jb1ms!Fv;7a/v@muZJ29,GD*l]j#
Tl;G%.LP95.tv#rj[|@UT2vF6^|%^O~Si3fVRg(wQPUU~7:D,$%KLYYXG.0T|T(4|.|BjE=%tYgs7NZT(=(y)pd!5z!Lv^7_Tz1C
8/(AHM|~GCi5SbXWWnGf/:=!,!d4:?NtvP:o]|:TX4xN^GelO@yrV_8xI*+msXVpf6F$;spn?IWbFHp|Pyz&kKz_?&8L*T*%S#v;
fk]v4.O>TF7~*PRE5%w:;G#3xocSgmNh+BYj1~m,?DwzC>=I<6TRNoc^%y:,.Fp,t(mX?JQ6mk/um)xkTOcsUTxRXE|HCP#fOJ(j
=lq1Xo|EJL~0]vkHftW4[.4LY=l2~al!)U<sqp9xG7Ek)NcHDW)]j0A|!RS)SJ1E*HFUB,I:|fx^NRCoiTo*dy*lUKSsx)^~e^EE
8|@9WCC#Y_$0Uo.TQH+x&/C2]!maZ*$Eu;%5gZRUl,#yPPWW|/NZu69+>W367U_33/+JkOcKbm/7M|M.34?Ca%@;otB<CrDP&KC9
3&>Kdy;)aCUihU/d*Oh8z[#I6_(A+K6E6P1eEiMksTC/_@zB!8YvK;g(If([3z02h*PE,;8o>+1.7m79RUsnauqOF;ulJ+h2:A5,
a|&[E9=sB%*AtZZb%X3a=1G%uYcY@UcYw#R>EI_[4yGuNslwa4Dzo)5Z*Of(YKTUW8^@4$X!ot1.+Q%6is[Xbn/s5C.K=[|);0$[
2Lkm07lH![erQhg43kADM<@eWcpHyuz)6+l|Rp_PGxI$]k4&YMP!WGNwauIhFVZ_Y%24&Cu=Po>%a%H3<ou:4heoS]Ackmz0CBZV
9zn^i/McV3JMg)2hD^.O_~B~+0P!.ragrY2G7^UA4uFYanaHmu0jqg0AUkp;WR)~T1Du4pY20GLSwkqiGS%[Z#Le>DGrBC_DCcAN
s^/LL7&d5mStvhMNRC$$_Ji7@iCB>ACx//>Hw1=Zi3!|J5(*HGEt9%pJjg;j)?H&R2f@XQ.RZ8G)[6+Ta~4ak|^jlbd.25vq?p?A
|RFH*@AH(28)GD8Fzhb;37&x(_OmX2S#s#aY^5~:9P.yplCV][@u57K^DSq,TIeXA|86#KVQS?Tq;Q!YrYJ$W/z%$_pM/iMtQGJy
YI)rR6B;*Ex//S(#e+;3,>DpLdqAr<3%L|QB889.XC_3OtEJQ.=ZLeqDhN?|Fma=m)5p6s08o#f|ZVib.9^F[L^VNpMWFj$kzU+o
1fbp%QP(yCO8Xrs_I?%jVXk^%&Unpw4eL;bjji@S6N&m7aO[_kwSm~h=u&?9DQY95%u~S])7N]AtCf[)C>M,!Y#,cQNgm)AKslwY
^QGAHXM&Gu:9TU3=khV0m<R@b+s6v.O9Y7ou~[TzxEr8mjLfwelkG>B%LL!CpYk>BJBKD!ovz_/(HU)DK#0N$noD~v.K_2WW>&@.
*V]mA<U:Fb#|HQ;vnWMYvz?nH!tn53KXqLvy*U1$SFOsj~I6BT4VuEYma?Z+cQtyv>1%.*DUViYNEW<.xPQP!oN5Vk96VDZ#JW5(
JiF?n52xp9U2qKKNoboTH**%E~PyH.]xSDM5,q;D5n@J3lxF>#$<|VsWA$oQGQI/|^BvdznXNTqlfYArR3lxr0k,>nCGKy5*iKn?
#M|,Eh0d@bYXPMq,CW)Kr[q[SOdC/[/1GIPM$HN_7fr5w0Giw>Qyd)JV95bCv,0].J:,8Za6;cjsB[G.g3x#K0:gZWj+0p3^VCrG
=Aw:p;2^G/_;$Fc6TNpW~3&8*!16mp57x@Ab%cah5<oQc)|<IkgDo1Z<.W4VyQ7Vveofy6m[[rF$q*<l22zsGPb/poME8Gk[On,C
)#m[nz%<i6]mH!9qSoj9K5&S&Bm4)(Vd$0w.fC_K$hK?%1Cr^4(.U/3Ey4~.GgQ%Fxq(pW23wPD<==Ax5e1Gx4d[ZglXC;kiklOT
^w#>G6XI4!J.,E0u1?9w|:9&Achmd//DPp3msnO6Tc&#8)b5:;0&%KARyPhx~l0)q+|TB~W!RLo;8z9YMCu>>y);3&#^R+lJ=SfU
QMzt!Ras|DK?5VtpjqkFJ|t?&#/Tv6/|9tU9zEuURttDr:9EeG.n4Zlk.ou^O@nCr_M,*EjhpFM|Fm(yT<77_X<:1_!y[Nr0bi#0
o[E42+xMrp>px03;HNnQw>rIy.)W%cm6Bs5swtI&hVDNXK;&$5;Vl5#68h$h,snA:SYm4=mTxrDHf]jK<ZU$53t>#5BVE;z=BH4Y
pZHe3BI1RO8AoL_X|N~jL*L@),QjQ2S$kw>arZ@,2bMKxE8_b)!WB5FgdJVe.99?F!6;B$b&DnzhmtR&2d3gK@X&[HQ0e=b%%AG#
2|6LOF|9hO7_&,?v/_iZJ=&Pzx2c4gkPP]]dcPGh?u&^@V~srl|,%3&[1=F4*vi[zdE(#FrQ1H5:YQJvF)]^:3UMFRl/9^nD4R$]
(AxkcKf.:?dy;)@3MUH0vmDJTa$w:.=NVhSLq#EXl/IkPvg[*.i!@8NS*6xWPDw9IPiR(pBG.#jFS141U@xitM1DnEaX:sSExGRu
G_]2g$i;hZ?lwFp;d9(4$TNYY_Z#?wmypA#<M923##R]Iv+B(Y(>P$:TJ&WT:rqHi^;6;hoolM2;Hi)oil81E4JWi1prs9y=Oufw
th9%U(#l~Y89A4Y?YYee%1zNtCp)([CgvRW4_@0+nBqe~(6qS/tvxTmi6[dVwBm2U2=GC0I3(dJsMP2Up*Z+5rm|a~55j:w0NP+.
iiCa>(3|L|DDfG6v+K)v?Kn,[*Yp(*qteOYm$~CKd|8vEic<4Io<?R80ekgJ$!gId,x!RPPh*_J%?k#$bO=r8*dMvop63:4zwzIR
|r1?7|Fz(+s[i;sgox^p7fIR&|sCYAP]k%c*TG*[>zi>JCzo>^&@1yt(;fl,lJ,FqT^V;=~iqJwLMVP3.9Kwj,1Z?r6l|LVkol<z
bX?!RQ/JkzS4^l01]2$a=Xz;(redclF2~e%8i>cuix#K92KG+IU7j!GP@PfGtutGBl5+9:PMKW%YB8Tq+&#c$LM~J]q.&4Q]E$g,
mDX;dVs3~pTE)6UhR%JoL,NZ#fnx3P62Evubao__G*G8s$Jzhw@0N<xE~0T&s].i!Q*s=wIsWh=Lbpeedom;i$@ta#6i2?r3~bUa
/wlfeS5NS6tl6gN(2u$b?px^3,yBgEjm)6O]_gG?k~lRpv)BA4i<N,*,=+8HIsJ)wbn0T<@0F)v(:R.cT?;tjln!T_#@2?i4OB5P
6R.JDEER8LuIl0#WudbwD0Q,[.ziL39fB~xOns[5(atiMg/%zMU?AjD6Fjf<!PX)Um6zn:s9,H=iH&,Ns&PWju.FjZ8^5Gc*LE>/
FdlnopCOtIgF%TMQf)gu3JKPzAxit#$AFsfGGTi!j6ywU~b.*kk]h=6,E:3x~7YH5]44~*0OW7CgG|,#EOm~jxZ?SVnqx;(IZA(S
v94+gY;/P!VR<Dk4h<ho&22|<F+o^mjqo2.B3*sR3=W@H00lhN=bEqXC16)VORx]4tIh9_].~t+%<s7aS~3PsxQCgWOKR_l^&LKW
R+W4&cxkCqEHrtd:Q8&]yUeK;rd]4Izml]X+d?y.i(v?V_F[:eHO#OuaKROLPPpkdKH<V#w_!R:KU!#9=uq?==Wem(sb6d4eJivD
@GdkOGb@xHpGYzd#ZVwhv=9m[VwdoLQu]Pd4e,kA[rf[plPA0.=BEmg)aR<FA%(>UwBo]Wpx,r~po4K)qX6_!dXDCEuChcs7=rYE
Ak9=~1BonK>20x,=BN@ZRn5LU/<HA7vs<M,|5+>(F!^|X;WRcLeQ_0=.&D53=a)g+^9anq6;co4%tNR,.Pr]qQlDJorsUBogC@RZ
6.K6s/vX,W!ZV7LRWZ)J,I1=)=Gl#~+X_gA<qOYp/&!vzup(pH8@/@YXBwCx|S~vqfy9zl^/%_jBsq^ww<gOozjg0_5$ZP_3IAbo
?@>lE!pFYva(a5g%1Zf8U061ik@xmBYyeV/cO53o]&K|Wp%tjlTR+fGM)$kIsF3Bg?8pAaghp~v&rM*az~zjTRy2wt[RYnc(A.KU
(9EQf1<nSPiD9WhHZj3Gh,ROd1lU;v/|1C^[4/Af=ZeQzJwPrYe/DW1TjiQxwsTbf)KOJ7hdz~dTS.;7H~By+3!#3?)9gtK#dk|3
nEX=XS#=F+_o1r_Uy/PUll!#j#uPv$[xL&qF;B$*UJ6;%c9hB7.6fb2uvh7[1UQu)/ZHA)6;AsyT7FcnYW;s4n(&~jb2eehJ^5fR
m&w4xuq37n^Zi2D@0*9q4B~l!ar4u7ak+8/rjab!U5ab48@zGAfX8s]8R|rFPTp&,,(O:2<irgW+QS>b&O$mlgI*|d,Qd&>^C*a7
S=+(ve3.(VaRsk);:E.tS.FePHaP=yWDH,ZYIqtX5PsRz.jy7eD^BR#]PeTFm!$X/7l6U%/0+=+WI|khH([~G/YjM0?Zh2;kZLY&
aeJMWrD:Q?BN|*R|8c][98,Wn|($:ptNWQMxIWUbyr2L:XO;fKc4+MPdA4[^QaVXZOC@H%o?WIAioRa06C^:CE%[415>DWj7uAP@
_tI#uPRKL;i%y+c5hN8S;&G0!5>)n!Q]Vao*^HPd%Et%2K@S?S_X9g6b[E$[?zsWJ*t7[~r@X>ISbUm*m)0^axC>DOGj6CqU72N5
#%&/cI)S5^Fw6rUrm)8*5Np*Z[JI9,wleu:t^h)xMzpJgHzf0YQJt~b[xJRjAP?26.WIHUbzKdRQzT]d+KsAwM/hamP[Tk$d,:yh
gB?d>4eXlGMgz_c5#[y;&YDWzP7H<GeCB_XVy*sAG[GDsDd;2/SB=$CX>,NDHR,Es#?!mfM]VcBXtE#T:Wan9,R4zQ?9xrW<er|I
s4Kg6!.K*X,2W0d(W?b5w2O]~0er,_Flp.Ul1x^8@x#vb3ua/*K3*>iT7FHzaZeth2rz_1PdOBbI<^fKn*#lR<twj6%+~7talX0W
&40N=8,t^ldqO[mJupd.VR$Y%W#6YCe^Hf_,wQ5Bw%A@~a|1|,PpJs!fauiE;wfPP+_D2*(mEX&qc9Xp_R,(i6JvUc#l&ahx>Z3;
/Kg8m0e%iLc%=n+5XX(|$H.5aI/0SshF6g$xW]_)%*tggMHK0e0lTcIC=,F*D2+T:W9#W5/8N6l>ai@h5z9q>(Sb#>dL6C9BPA9I
X/kRi=M|/ycN#DG:<CVOV9aRTha~/DhLJaZI+o&#d|dN^Kz@>l*1?0)jgjH8Pmt@h6<>Gmgw~M;&@E8Qif/#*chZ@uIPZT_:~82Z
vpWF)j+Hm*teK8toHKA>!ucw|U<:h&|3|Jj[k(UrqYK;$!DYVcUK^Y]/:x>Q5Rc^rI~Zxk8D;6J2Xr4x<m/_Lh1|xy[Q)dGUVQHj
FHV6yM)+G|KZ+[>)O!emRG3uX~&)l|m^Ktsf1ZH#!X%tR5h8e3svbh!M0O06$n^UJ!SXaqQ9E%.KDXK3d=u/]~7F;x7XNwcI)c7H
bmRdI@l>hKA,^mtF43=.Rb8tLKrIxyM(Rzq$tef_OV.Y<y=hdkyuIp:KTHUqwPt?C!Wkd%a0nrxMAy?]N&eJsCv!KG$wKv0MxU=+
=Sl9#kxI#M^Ow:9WC4a=2nZ^_sHaF6DRRpqHS]VjHTokzb:B%+Q?D%r/x5*Mt8wUcm9oTw/sg+QHQ,7jDjxK).7+rC@61F:2v0E@
su||7#(nknMZkHgCE=~J,v+,T$)w6;m[7yt:peD~@[*QG9aavUa>M*frVa>c<4xHk88@)BTkhL]93d;a5?$=#M1y$=9H<35Pd+P@
V>D7IsOlqU]E1U[>t8Cr6RqD6&aR&J=#cG;eNe7O_JQ4*(Y|mxDN:dsPIw&&tPeAjYPzQQgIj>~msq.uD]|zS>Mk*+yIXST=#Wf7
EgOQ?U,<7B8k~Gr#G#~oeihUZ*RT7#TuK=bDGJSZ1m&B0BZ5l^nnlb;6vGc4OlX]i*9kqT_8,R1zI[k]3U3Bc]+?kERo[#z^WFch
)0F*FdBz.elr!l7rjhuApo=nVZh!Fi/@p,>88xbEq83piUM@ty?cs]Wd*pY?GGLLAvsJyNHh~@gPF,%si2!*,rOX1NB_?dp]c/lY
yvy*5QBv<wl>(Hs*>gQ?~V)U$0R<y.9=_P|l2NV0gVl$AsrC>2QfxM!2JE?Q*z*iutJ/dWWWv$[&%GK&o<_t<+~hW_Ip$WAHQ(Su
;74PVV|ThN]f0i]vSI97Nzcltf|bIw$EvK!Xipx!y7;K5oy;uf8|dm;b%(c@xiv!._xD0zy5!_sb6j63>xQ2q2i%%P^YgikIhd>t
y%PI+bOG$V!kyPK#+e[aJMi8px;m]Jh/WQD4=<hb5@!P0VW]f><VWboQsdh]XTsRXv6[4myHU(/W?vFlH5b>e]N=>EfQ%KV=*ksf
i?,8fPkWohq),]*~CU|~WadgRT6qHB0b98%TGaDIn+/Ms1pu*;Mea~9#[nZ#f,3HZC#sLowcilFe@0Hi$pTX*A^)d)U)>N<Vmml2
dfd|@8B!P9kqANMP(ax,tHEa9&h96!w_d^1vFVX%wb&*yry9iAQA1@/,l(2l53zB[xBb9^S0c!Wcv>lE<Pfm=PVo;vdE^n?.zzHC
Tuy!|<8FuaaKr@0Ew,&M<h4U*DKr&sv<z$uzMkuo3fov9B[w*]r%*&7tPmeX)+uF#!/dv[AOjM4%)Cr]E?8;ck/OOw<nI&?]P|J!
Np[]v(jk=Z$Mv?&?f=[>Ox!^;(#9s*m&k~?UO|Ls@F10IRuV)0V!+BZXPh$IZh5W/mm:VGr9Wzc<Fy[rkL_7U~(&ZaMg)Aeb=Gcw
ERFU1xn|Y^%0(UruN?zi~Kf]uVc0EAw#mHJe][G@i~O#6GKk8eL:&ggbO>=C0lCG=v%W$pRW,HpWb8&^PAo|s#C7BcYZLsW=q+>1
,/W@w;HpHIEaygK_%Tr]3tOZryvz@ZQjiDB@Rj8.][)=r08=Ks%R!%gkRM3dP+QDE5WpyD+lkXmac,TTbwv0<B&vicVx~2B%f^E*
(CGf^tF4b#1jc:?VU6.HuEsgM>GD6XM7)D4(*2qEB6_Y=>~M1YkuiG$ZSKZA87q6IbGHa&[xc,?wlPaGasAp^A/gQ3pEigd4O)(6
55o[%In?x|uk5=!;MwBY/VSGcgQO*apaD*9i^^j=9ZAeKFY2ynmxpeNfUSN[4dGD!*DPq$MNu[q&Eb9xC*#TtR!Id,)iFtCF7D#d
^Aw&>UtGn1)LrX@(&syg=Xo39Bzzd%Wn^gkf:@As5:,&#Zmu;qmuf81)CQnXNTq(puk5sJ:wS)C!4],FD0bK;BIC*YcDc?NUMhi#
=?ph~LguxJ4^wCsbhw_CdPc]ZS]wX,>f14fNq;c8s=H*!a>zCxwtc=UD_K3jPC;CzpfZo#E*oI6FJ~;d4H)>vFF#;;OTE(%@b68A
<qHK_bQK@[NfNv:OSVWFvH;w7:>a&=Y|t;=lBvHwie4|B18jxx&m:J#2FeFa]YMx2yauymKoC8sq5eX@T@$%g,iN%6U%zU)liEp6
Un>|.,%/nk@9X3rOyCN=(>*>)Bh)4FnZb]zZu5vB4==FN@tT7N~UKEe@(u.f$<dxe_!%&bh+T~w?%C~cIZHkKnD,3fGUcvgCu*3I
!07#6Mj!h9UfXE%;UUB[;jHd9Ic[Aa/Ca*RD,lK0H_VNQ+LNdr4m6i75N3!73o2.;=;V+uq:p%BeF0$u|VQRcMB^Cw7QsI3G9!Z3
>!)QgRF1iXV@SIAu0V+]i5$@AJ*ud5StX9G_I~@&(D,YK=H6!r](fpMP77sWap(zKm<77tNPbt~WFZqP+9];)<^Lp^Amz$p=C5n(
59[M9)&)Hu<]wd3#/Dvk=?vX|hOsRjuqJ;ji(d@e.j>Xn*_d3kW|jWBb^/24X8l,QamawdX=nR|QP/>xT|xuWO+0]yQ_cI/@ut=?
P1~MgtC,pFaRt4Ti4.m~8GaehGZkYnG]nKQVq(U@c>:/A(~vpvY<2hs]?Ya1#tCNs5/@Hs>#ILy*F#5w4X+5(<Cs#YAUS6UDzQ+n
#%4?NE@N(aW]#1UNaCU@G[^Hk?_^O)6*_u##Ky.c+/9hh.RJ&vzV$+enWPTV9^H+[0|KJ0,11:XY26]p7mRo[U(WBHf%pe9DcWw/
$NZ*>z92HnxatwL>V,@q1V$9V;.SEh+<%)#bYOGe+Mbbw/PXHAL|xk8NcCZ<.XH=I<PN.NP4$4*sJ@u_&A<02QrSx|LwV1|u<)S3
uv2j3TtT#Rdo#^lSGd:5igR=LhXOKP[G5WsN1QwL$2cQq[7.HHY9HsGL#br44RG5L=Sp>u&K!+N?t|)A:C&j8i$S[_Rg~3QZI~6A
uK9H09eV#jf>M1(I,L+L?#zg6~yHS>7A@Euko$8#(4<~:)#XmDQX>Mk%4VAKufk[SS~s)k>>?Tsos8%yo)?|lt|GAK|8@ar~A[%=
d1:*?KWHK(Hk&Mc3c%;J5.P*>DSeq5<Hy7hxi|$7oNsY/0V!O,>86hm[d7WoSY2DIM]TIw^kM)eyW0:.iS1|n_g(tUauYSdyF~&G
]3!ojRpj^$G[K?5eYG>K*72^S+~>g:98cj+_R.76ST++BD(YMS@l4UV,G!XlU/sQqM|(y!o36,!u+7$8*n3(|lwIp9:L=_#~>:k[
|58Q3,:?p@BCfFLRG=6GL<nDPAcELx>H($3n1rDjz^|g<$lEGJrt.?gqd=o|NMgFMXPOyBn1=HXiejkC]4mVapO7!X1ZEy/:qF+f
,A&|(pJi+nOYq~//#a==a/ByhbJ6YoPbJj_(u*HWpHfvQyXK0MgF$1zROchuEfYFQm9NEG4efXrUVK+iGRQ|::%]xjUq&dh;Ziu)
U@K::[R3lMRw_ne*b|mh=FiTGS0CH6D|+E409=+sd=YHv,UCz;ujS%#n|y+/;VY4LR^*j0U|.PD.D|dieC~x~Qaq=*~NS+a$aE~j
a*&N&L6sDe~[P]jsJe!3aqCQk.rpugqt]kAC,su$E<89b+7X#&I00|O^aLaN%UlgxQO%JG;HUu+j/Z7QChF5C*9g,!Ku>@[2^d%u
6MD4lrRFe|,T[Wo,q28@)(zi>2FY5<%|TF(C&NIc_m[<*Cwhrw9,wy(,:C?;FU(+y<V~f?&84iXu5c<7CyU<6,.*DX0hXJ&s]J+3
e&9>iwS4LZCl=[s)prm9Sb[5@gT^_*Fb0^LWwk0ihX5lt#TUpakmGMs;xm)=Pyxw2g|*axsR:Q1K*C6WD$4ettz(ZM5x~u9a&mtd
fI*:JmUrUIZ7.Ir<=j.PH*4cirnD.Q.=%%Fv]f7j;zBu?&p$K4teZ>M.MT&@d,H+)Um$=xTLSN=*rNd][U5LOP:ZIsR*,s1sQ7vm
1eLjn15kMQyBu[@|Fk!UR*??UmHN2m2st]txU6;XV#9ZM.arEGdaa/(RLX96;;xvp<l.9F%q6(M^n(*3(b;QgB+Ow%)_7BZ/lBbc
6Yk>;p@r?dY6Kx%TVQv)Gj|#:L~H=&NTg%xAQkCq5XEZfS$HJ?uRm6[8<%=xQ8G=|wAMN!7X]1=Ya)hGc$%z[MtQ2MFkf>o<UKpD
Vw~mx^)Bm@YzPY<L]iT]O,+BSmfm6w[=yTf/Rk=]|#H>9I1$q^ck]W[B[g14qZT855@WB$1;uKSDi=Fqpz!4sX^9|Qc+0oFWiMoi
lO3a_nj(fFqZM#7:%p6hh+FDUwe~qP#^NnlT%xS/Q52l+?6vPtC*m=YTeB#L[,UFgc56ZAI*bcd|:M+iQKnAL,KKhV*(4[4![K5.
k1a)rUgg$Dyb?>NRDxu_aU=B+^ekY/XwE@8UJXODDZ:wQcg=1A5m!r[!sL#bJs]UbGB&UhykoS(/tALj~<]?=f$^6n;L&:9opG0D
(b1LdEwceu8/%wMn|.z=)qLfI~xu0.0S_^R%>s#]dD8gqYH&Yd&Za~_/Q2u/6;11Lg_4W9H$uadtHlqTSVT*QH78$+G3_Go9<1gC
:gBOOWM$fu+4bu0mQj9WEva/%$K#EFxl&=QGsg<[Sa/>Ml%/dSCI16LK:wQxi8Ap]XscDf]@IEq+4L>vI!7RhB]wmUG%eGK?vFaO
/_Z[2=UE%*~N9+;_47Gv?@NBWbG.P;A^^~SWVyLfaF4#*ZJRgNviqYIFwm>+xYs~hV6z*ow*knq6OOv)g1#<Z1;F)b+]w6<H23KF
gAF[fyCsx[PNdYo]SWZ<*YzAj&(Z|g*pK!Z7iYHUS/e*tPLH]h3HnrxtT5pnk~FIP1Mx<F,,Bek@LGf#C6H.r%M8Y>=ASeqwl(#N
,^Y/6z|E+t6^!X!&M7Ddkc&,X0,x2bC=(;ohc@15MMChk7wChb/WKDi,%P9%<RiOOywWz*PleJN^i+uz6w:d?!E<0qe;_aj@2~8F
ku]hf0s;9iD1Vb0ec]b4ZOoM]rG%BwaVBK+t#h5l|~nNV#Ajc_T|>h^j4gqI^,6UdjJ%S*ehKPuO9G#OfvpTsijp~K;VxI,<VoRW
JLFh>tUSs/Fk?TNq5V;|!057gr%sTBo(st#CtKYO$7;O*kk8)^t=p9^/nq$PNVB8+QZcS%tu4pE!RMFN|q[=U||_9UnmG|(c/5]g
id#Xyg>OUZVEZXFcqKH1$UbqA*!s0R+jLO|#DJ&DtBbjYI$ATt/7ta!&n.r)mRMw)J%MESixEC7q0WjiRU+1sg+D&s_lt/#,,P8x
Jndt#/3e0dPcOUOObg@r,ps6zizG.K/eMdQ|XIfG98L79Kq&UrrD|fa7=@E]H>4.AG!|WPk+m.0nrS0Q=%o:X$5kPO5]K5cJt^nT
v8sO85W2V]DplkLX@%jo*<QLeFnG%;vI5:5HUhI.#6tL/[~Yw|VyI?[U?xd*<zgg1$!S7uEe(n7dV*y|&G[NupB3MXGG|P8jFcHj
/0TzQN[;l)MI%P0/YP0AV~r|r:+U3VDh:QU>K]uf3(pQNIp_&bYDi:Z%Rywp4C14qFDF792%/(mm7Vgwg7!_7q)(c|48Bj+|i94H
$mhgIHQ4yM~?GXcy9cCQm@&s3LdylYHN+23tn<dk5,:TmsBGEo7D(Wr0IgN0<NMLyO8Z.D;HP5O@VR.J2Q<u5U+uD5z(myEbAs@k
xu,9C&,7Pz+CUZ!b/3/8<~W%1q7H*4ghUaHdYAzpxu>#mlu9+sUX&[:|f[1=@Qf[PpD/rdw_#,CCICho$8@K,tZ(P>TaOLOVa.pD
fe#VF~SK8NQ~gpBKF9C5eA0xEK<bUXujBD/ST(7B,n2Ih/A)BE/7IWH&>DHSpySnwI&w.<sN.6=mAR$7#%m?4<gZyk)iH15,j=%s
_4djhdpY]fnWVb!P4?eocBHA)SPc!?h)v(:^G&m+_]hurn8Yb$UIsa@LDu&BjNP%$ql=52;*mad6D(7;CJ!I%csHUmt9?5eu|4LG
RC*i>Ti6^2hJW~,NQ,M0zTUCfj^zVJ=o3M%]YB5pBhaAgCn&618x,#3ovuJJC9%PbwC~>6H)S?[Avg|*D+gzQJ_MR;5qRb3WTQX]
o$@b[<74E=$Y%DtgKY0p*4])J3X3HnPfx=hyPv[wM;:!u1*SXD51C6YSgP)yoPu@Hc5<0#&4Y,++?dPx1s8Hl^j2uVT*ll1S_a/W
R&Ikbx9c5@d/vZGflG*z^Ch9gQSunp0Fs(=P9QwvC!IQbm2xl%8~QlAu_?V|mgpzqPd89R2V,b+ozP+n_;QBNzc#ub<TFwI|YRnp
o@Qpi3^sg06>)97YaZ_l%8)zkDE+aVlxv<BGzcdMPGO/Wv&g4ecKc*JE;;5&7SXt+WAL7pn_m:DcDAS6ZwPz0p8OC.1H<R[N@aAW
KMa?%J0=N@0w>G^7Bc_MsT[>jmKg)5@+$K5@vOy+FH!(ypTz(HJ@),n.L87Bb^4<zK1WSNiX]$Bm0<hA[No3Mhv[6Pe.6yhrg;2;
HHzk5iu(<~4AykK>f[!oA+I8toD5eXrshk#BSXBXQc?KYe6NNtBCM7NMVqQC[yi)E0YK1aJ@Z5f#?1#.onvE@,0tBuwSH!Xw:Xu6
37A;gq.5|bG*u^M*VBD~Z8%_6h;<cyVg<Q_cgHeh^7TTb%2@AM%1;4e>~a;3N$volzgQAq^$CVlCE1vUi6hL|K<atcp,nV>H9;S%
I3f,Qm#Jt(I6kXZhy~iz@T8!xE+G8^Bq5<>Pl]c;c|8oT<dHM8L*(pIf,FIiY16?],cYpmMn:~|tTh=&<_DO.+lS/2T^bC96LRQy
NU2c@JVRe[Eu#00|[UQli_]y._8JRs_d+tP<6nfNyR<3q9i<J/!VbQC8RT.4ieMpp(^oJ[jRHW=@[M|09u9R3VdgaWS#NaNu&zC]
d)itw?DLV]M>Bz:AbJq]ztIfx<%B~kF#.)w3LjqnVptXYH=i,hwXH;P/LRlTlEM6+;hf>T3t(L0Xd$iANGmt1UQ!:i@^Y.(z00Q:
scjIE0%WPJdEBSXofqUeOoAZ5(i!e~_>DqqwhSR~DL;L0[U*cNPPsS&<AZh[Xiajj!>YW*Xeq!<](AU*^f)HuV2msZS+AZa^,P)B
FdV%!6*%[o<WB*!D6V2+j/!3pIFG8]zxb[Z,|eB.+F$xSwswp0MKX8ci@?r;CQsAs1?!Q8DYtc6O~SbSyiaUnll7r^WjxoR6?@;I
2k0fMOc<o&8v_Pkr_ZihlG3N!U=:zY[:3MAWG#eF$X?[s,BcdH6@P8k#<;LS6<H~?hD:4F$hr62AoKdt&c+h4&kg!A<Ujz((#|!N
<G<K(f3^dwgYsUM!oy.&24t.cjO&=G#xugZr8sKENX0Ou#7O<[z7GU!EkokExht.kQbb>TwHYCrsH>S5LO0TlO3E(Lzp0|s~(M|m
FEo_BF[?18x0L?bt1p*EAq+19k$EP(dVlE;ws4@ahoIw9NtN=KPkPPr.qGb_T_F4Sec/BBjoq.tC%|v,q90bUaFlO_ie]tN?1uaK
5!nJF%Q8./T%~6?Ok;.O?eQSL)2J;*As)/+pn[c_bqrexbu&z|<!ON0wS58/0X3(V+*5hFx!(,9Uo=Hqmu1(Y>2u50g4R^bNsG40
t$FHAV5E6SxV_.|<H<q;+]A4d?ZBbbLr>N;v1]Va>CA8x8qbh|lO4J;!uUtVnk2$1),3W|h8mbI]c,y2UkeLds~<yf*:9cWZ%4tz
2KHm5enBb)U1F_$$Aj2J@Ko!$]No6W|dFIt9Vf6a45>Lo)kZP~yY6eK1QU*OYpIZ6Zu42TpRE;aoGyJ)zFFNnk_S,|5X.RBI?g*I
bNZ5Cp]y>;#Xji50C7o??Vpze4m$z<9t?qaIiYo);bf=G($KRHB=cGQw0tT7BMK09+i53eIGQXhwmH7>e/<p$Q6Byq_mh.kT+o^u
kV.Lx@L0z!BQUId.M&sSBPBE3QL!uPvve3@$JHK]m<4;[,0Lh$]?:+9~=LUwRQj]U%Y.tPKft2.>_&7])zI(1f!BgQggJq)6HWG!
Dmvnq2>.U0a>T&T+zU1PK0W:lO*n_>z6afRnRfnJyzRb4xHdMBlQ<X=E|%Ku)$p.92H79gA@*[///86XNnci&oo|0I3$Gyaf^cYN
qMetePiYa5t9u,i6+Yzj%DdYdbr~XHx^3$)4I:/L:8zWPT5EsQ8)p>J~WJwf16D>_oZvJD@%HQoaf=Y_sfI<XdmWQ[*ykfM4W_YR
<E1U0lG5HXtO2Iy^bV]cx3t,5zz(24w3nv+=FMsjrkS((EB1KLJPCVU+$hOzvP<)]kz_b55hxZWRKwz!ldQqE8*G6u,@/igsfFFD
C]hr?Ay~R.D_^dj,HC>xCtH=A/c]wTqQYA~8Wh$NtvV6[wSi,m:]U_.VN/D%%P^fXwhV>;7jmFe9<y1O;(k&!*~Zozy_4M5lMlSV
Vt#kyrCtM#PywZpRP8IMchjfJL_/O=c2+Z8yYOY]qb[9_,opzlZ7#N3doFR]D6hC!c&EW*il@;Ar|Q&kx@C)Bf<6Lj;&[@G@q|Az
AG8(zr6XN%i8cMal^K7c,N@HXUQ(190XZVLX~2N_vrJ:Be?Un>mvR,tbk$#/&c!XHzIctayZdD8UDUv?+aWm7>DHsorz0xXztjqi
6wsid#=zb0[Khe!~GPM%JAu#a[+$Ee[7,ir5^M]&+H(gciq+6K[I$CE_xq^&d7,(0WAKYiF7%63>OAA1+Ye.dKC(<;9?Y8ICS!@o
Q[L]i$&WYTdICWmBPF..Be1^7lJ[<cOJJ4l&$_PS!|=;H?qSFm.l#aEy8.a1kLfPiJplM>#1BfQ)c8d5U9qwL1RR/T^@O,[9g69p
G89kH2xIZd(QNoW,,>1,9<~M2xL7wkR7UKQ*Z^Q.SM(a?SrEW!YI?BV2X[%[]b!+$guc.:J(jm#,CBc|!I:*/Xj4GqT]T4vuGugs
VtI5?czqsSTNbj3Bd|O;(ugED;yHs;?Si]>C.moD@yWj55(#<ul0a$I_#*y87+u(=ZPz4S,)Ly~%pX<any*[n6EU~>3l=[sl=YIh
I;*VolLkO(]+Po/a9/OivaS+ADvTKLL7gc_;DRiH&P5n+%nO#4Aktvf_NSO.nxBkK:hJ$Kctm:2dcT1CkfZ#psVMaCAE1He9pdJ2
9#%2hg<,vOziUR07m#pI4ft4(]~kymBqMgP_>22O/]krAz?@DBW5]D|F)kv)praNF^!9,8T.*p|j)Q42Tjr_:Kz7g,*]8KL^R|_N
w6BgO[dbgB5BAa*OuU7*,]xDl^O8#U$!:G_1dj;^6V!Fh]pHeQgzPZK|>%hg+Iq_fwxTh$?M9rclo&gc2rmE@1;.nc:[]Wp/;?e~
>Ik!_,G7juTt+/L@>dbF#JStvF6Ck$Z#;c3)%TnzO|>6GBy,$TjoY/+sy/La;cOq,T^>=Ss1=JI/ShHBcsL(vRP+5qP7iq|h0V+a
%itD#|^+>cHTm]6Wp,RC+2V3XS+i]X>*zj#]]f]396y@$HVShDvY2$B+v)?&uujOnP>fq7C(ZrgLnUgzn5>Qr#]2!=k]bx%NJP1F
wxhw1dfd%5<N_=|#Me^(Kh8glsGl3x!1E4$tz,0.Tb51sZRV<Lhgo,S|>G.Z84<=wnzs:qpo,DOK(ZF:+GwfW.>TN/twii_gBe,t
ZztU*^x!Vmda0F[FF<_$&dKyE:hu4ZtZ^[~a>G=Sz(fyp^gz;HE>,PXQKNLBdXZKtE.YA|x=w.zWV[(Q!&/*(=Th/3o^YFLp9gDW
5.+G61Xcg=l~GCob|W.,jqXWIqcQrt_viUn1/I,>Q1sNvXy=l=u*tNdK]V&Jx%j^gz#IJhx1!7S?+9b_ijwl,0?xwW2~Zp;R.rr9
8tr9iS&(qf,oh;RYe&~IzPY6f5oKMF=bM0TQf;7=M3#zWd#e~|Jkoj8fRBSfycyLz63~]]LTkAiQ2Z@KuPSjIpM<CC)At1uSE+HO
MUVr+4B8wLC/HKscZOOPb2pJ:Q3q@Lb$f0=[fEBW95PWV8/Bl*wB?O9m#pGS~sIr7N@./if4aQp+zJ!jhvUM&gm(YBVQ~urqwa)y
$uiFUl0RN=4b4*=isF7)l3),*Ej87Pa=t.WrIed|W)EAZe+6~:O_nzy;23_3$~F*Ij&QflTUYqB%JX1%ZxI<B>[Ra4DNVp$wS16/
fWMd:Q!yALA!rFL_f|=?l/r^)20yJo8%~,rs%8CSH>KS>e0B~xnUokeJ)i%|#P7S)&rR2QN#o3ay_DELCYTyAd^jDNm&|i=kZkKD
jaqcC|atq(p>;odu=VKH%[*E(.Y0]fewz$c2tE9WT69[Sic|)0z9lvM_AJTqjn2_4A5,6%,P7n8U96_Y6r_Cf!>1N2DY6bPizR1:
@DxA40)Rl_,Akad<TbPp:mn>z>_=k^^a(/A]X1lzNJb^s@i6F#@1F%Jd?$Rm9Imh6|2*i=X52R$]hxBw^mCWS00m+Pg1HRvpao*k
C6[p]b|9(0hlVNUwH:**X@qvWh]X+71[jqc~E(Hd>5&+XO<HD~&[n7;hcbjS;i30UZcw;!]LU4e.Kmfz=xd&O<nVOX@o>a/N%3?^
Pwi[5W&mU;8gKw_^&#lG?W(QZFOi(z,7CZWqo&hL#pD2rO|_grCHDfKK)IEfE|fnvE%=aax@iFbd8G.6nNp?Pfmu(4&W>IbVn=e^
E<U#s.Tw<_vj=tpd0:.;5h)50W/Ug1>j8*01fcobHaDr,E!Ymc#w4wj?##xeF?YS#a(%4JdUMi<7b#J?!Z::[IHht29u$v90~3SK
t4HF~%5/,a!X]gj%tsIJDts</cAqtO^Iyzn4MdAl5&%fhpP%c/^J479n#1^.v@=>XF85?qz6g9XZzTeV)$$I^mBg~wq?RmB|a!L8
|ibiu9uY@%Xg:~@b)Nh#za7]0(&v%0ql,Yd@$vs8(S2&DJY)URZ6yI7BLwz;?BqXe#HY@yb%y~+64WXapmkYh:~69r[PrE|Ac*b)
pdcS_CNJ_&~0Nm7RtA|0ZWo;34;kL0or_7i3cJKT7~~!#<DVhkYGiu+W>7eQ]y.m,)%dUIa#2V:v:qQYyy)y;Gzg.x^t/y%jWm;3
~62J]bNuRcN#e$WW[BA]we?wRo)6[EDecK>u08;w6n=h1,*vfukeiETD^[=%/_*jYRA_I:hKO5)#Oan^=;MRTn:/fNG;o#gEo1yV
GA$M<sYz%^eJ47G2,Wel8Afg&a9x+$+BIsL#r>1Ad)sbLt3>Fgx;LtO?)k;5dYG;ILW)aZH@I[pqW.|A)*$4g?WH48nK9<MnGG+7
td:sP0Td)c;r*X/Nj.>(*;!]S74Sp/k5cuoG4eu^FS);4uH?SIe:iss8hPxMr/Zqns&1(BwG|GFY;wBSWTAJ1olKig6DGD4Bf_gV
IoG?bI|b*ikABQF+d4l/N!QVGmfUr29UB$f!:e5!I<$L48=aw&oy:I1M0CBEz6|u[]r%6M*NTSwkPLtMRt]DMy:e01|#OZh?!DcV
n~C1^av9r6dw*E@8H?:<Th5O&axb=IjbmEw1ILn:*r^ds/Plb;WefSlw:XE(MAv#%gvmp=cneqjh]~B230~ru@Ftp9FWS5[UM>P2
K8NM~MRQEtQW|HH!3l*OE,E^SwV=^)2awK@QdUr@h7I(R3>|>ut@/4xuNF]Nb,%ZlGv]ezhBHqM7Nqiu89De=08Rj$=4Zk],H!c=
KHiI1uSxnYdUB/#P6ST7N,vVNys*iFmsIHgc,_tOG/HQI_Z?IQh7>G^e@R>UzefjBC/%ed$WZ|tHc70$i<*l9/|zKU3lZ6(9;,Yx
<rgCbtkwF#Pv!4kqadDXoLopY60b&JBeA*BQLNZ!#nwG,XrIE(LEfVCnjvtQ~_#tI)nLW&KhXzh.mO+amvrDaM;)k_gL+D2_$Bn=
CJml)>f:)*Rc<o>D]RvH(?FsmKQKeU?aZAcq]3ZJt~?%>q)?aEEyB(?lDZ[d);nxd*8^4APvrQ+&l/.@QPf,gB.<ycnhVvt/Te%]
A4M[GB]:rvNYN[w<I#Jwz7I$+nba0~u.Fa=.ZWCk@+&^W|qDzN;FA;Cf=?22R%,Pzc]+xU7e=6t|YcYPL06M9Zi3J3h6xLz*y40[
BhJ+vS9C9TB,1MYxEx=8%A>><=P>9V>Q4AFb/^c(;N;:ZJ>>Ir+=TXfHHRtE7#4c3rgz?hQ=cnl@RQM+3s/>>9kN9@z@T[k2X1%S
wS#;9whDmIq|.ND=(K]1+gC3L~u*c_Lb~ES/;YMdzyZo0V8:$=sojP0b1@?BNI=YDtWn_T@%(gp~Ct&?s7RBThfj)jHt^~BZ6#B;
S_K_GjpL4)o#M2B)b5M@.8SoJ3vy59ePQ]%hYK58$vCkDnGB[&GVuZ]Jq69_Q</pL@k$HMPSNXQ,eq0BQ4b5hd^1E^s0_zZi$OI@
e/mpB1Ly5N,vDliP+zi:?082&!bRy%fMl,<ioEKZWi?^6(X).<Y;b<KKBrV?w9E=1%nya:nwzVr(=Dr#J$:8%rf#7]F]s+|B+WG2
QE5[_PMgDJ9m%Fq>y_l>:+0nc2VhG~vcZVgvo|JA5Mt.%kUOu>K/(sJHh=,k4n2*C:f_ASIFb86C1nqWV,Kte*e*0T,P8FR]S7~U
c[<s*YKTW@WE&6c6cqWw^5+^?|8YiCGh^ga#Ra>1AHo6.i1;V](*9,8%]GM#;Y6DGi)E6O!Xx:TMq1?#%>dda9in,))n_e]^>oA(
j%:.$73tl|q%Q9T,XWLis5vX1Y+.w^ODbQfkb=d[@i#m?h%8:nanMB^nIE_SI>812g7MvH$J|2Foa/R?IyMd1nYc$@x$B9@u,|1a
ho$ZWG~Ad^<aQ;zYPzdH*;~|J;3E0N$C<$:2_*v:Kn;sv$la#8S^4aV7y?yWn3I(ahNbn0WnNI5EaK|1mum,|qi(Q3l]ji0sO*ra
!t@jssgVZbup6eXzJwqy=,?r=Z?qL?4h|_%J(f,JL~oY]1q&jHK3AnJBFx&~(5GEPss*Ie0DQXX:D2L9r9xYGW!g+Gd<2kbSi@bH
(a/,#3d8fuNq;dv)aRb0+5qb&w.iq,8Kx%<R/M^ohDdT0=kAGf97M5Ua#IRH49+@mCdsQ=/oOl5NZa/496zyV3y1Yb/1p3g(4IF=
U1jr4Rb,;l$?@|nK3o^?*9~J<fUkvV:3J][Z5U*7Vi)~C&xL|0Ze%V~a4ov#%qli[5h,^1+|jmC;:ygj7KB3!xe_[]zqBI<RKr$f
wa2DUYUCgMtzqjTF%yWwQ!C1RbUFf^k]51WPJYzDhJeL=d1,[u9.RA#NBmiPk>Z9I;(RRUbq3iC/U_YkzFsc^@nK%LO_AV>zP]G,
y9pxL9h8wM#sdcFjfobkM3Xu*:Tu;]crTa]jQ|ORNU)st4a9Pd<Sx6/xfO+qn?Vk>,W2ym&As>5P7fcbWskJSu5rS^^?ak@Y!bL|
K$4~!PB6dwd1:gJcnk>eq1cwV/qHmPYuc?T0Zsq~mLfCkY(P$hb4UHk=K(mk):,lzUm(,r>cv4Q4%OBUe_RrQA=qNgY(gjoJG|$M
B.A.>T;1_5ZF74tU]aP:Q[1l!nSOBuUErUNX)0^;y_>70ucSpgrFz(xO1JB@*Ex:[TXQ_cHpx_Xa(w?EH(L2Z>==m+!1Uk+VXy!U
dXjm=6=0H3%hId~xamN?9484y1#KHlkdR.$,*S|:rj(0^g3zETj1[ui9F!B17xs*r6I8M!E9_@VrS6UD1jNCh_n>GH*_z!cZr9RN
aG7*aba$+*Q^8313|~?[]3,p/2XqOi=d[0G7WL4DVq8zOyD7jL$mc;o>.K5^FK@Ugq:Lh49C7&XaH&+3Ip)$BKj5z_na!x#E|>#N
^BhW/yBC<R9/NQZ]&MjesP_)7cMcM^Bv5dA*yR6UPDZfRDAb;d%P($L.vc?&N~8$vSBq2)!nk&:#@!o?l/O!#/E9X>@J7A!o<C|X
<q~QK4q;]X+#_S=mp/SelxT<h3G54/S@acTXYh=XV_Xt+KCkyOcEhOqQY#OgOGkfg*5O<sd_3ZyZxef@mnZvNz=zu2D<TuiGpL;;
lY1NHG$sqUx|XP!kf@=(I$yIzAQ~_u.4L7$K^|3k^Q=$qfjtF.?hNkif#2#92r!~9?^7X<P6BoVJV$#0+1Qhej]G_X#TEmY8,Ei3
G)w]ai?XP]as2]km9MZb>J+#G)u#^UpEj8xD:S.9QH?Jiz5_c_|f$J94Lf=^!_%k<bFXdMB^2>*>t?(Yi:+I[Gm1MX.wTe4RvU&!
s>EFIKK;<w0FGPEAj!_ImO]EbHOC|eBq?)!P2!f+50&~DUmUdt5/Y0mJk2yzIc0p<2J?VKfp8~felqbxG=KOA5<cm4pIh!KyTV/,
p?PW.P;=C_sB(2l<2/w>AKjQO/Dtis+C)w^Fs@UALH~,Hu8H<.)k1N,)[em0OTwgrtT(>@QRHWw^q<GR3AmUgWEeCJTA3jZOJ^;p
+q#dgfHv7P4JMb]Js<_ty0$H=857D^+xKp(w53+:pN~~ptRTr)U,]7FExb@<vtnsux7UUkWOp:fQRQLClPkM+Cp,.Xy~HHqKQu]D
nBgkFyz=5j&?1NDvZb^Q(i^*=V=]Ok49!t4p&[]^cnb@pY_/9:>y|[2Gtee.8Pg4kY%=&qAMFO9d#0[KT6c|tmCzRfD0y2mwdru2
v9$2hZt1Q;O8M#_wS+(Zg5vW_:<8)s18!9V9l+BATfCwl+*@ANMCHb:/WS:BWAsiu.<zPuRZo:CXVQ:7|l14Zh1.d/(**gwQ5(EX
tYQafT2a+,5t)[$Y9w^<f3mJc*tq5](c2>fKuNYWZ*O6H0Nn[_LwO7zVhAsB8hYb4:T;7rNy:OKeMVmAC.50JHfc%vv7WR+O*+X]
n8;(oYM3/m9u.5b0gF20O$)8ss^|1TNJQQDf+B<&NkZDuprkiNv5)c20Htz+QBKo:xEmI3!4Xb:pvm(2In6B:4OO6g|.n&Q<T>1U
@*OT0POl$l)Jilh>3mVmkrGH:dQ/KLnX/$)u8Ke9&B?tLGlS5KU.oV$&HH.US,gCFt.qnUXl/E.,5(B_Dwd2U,DMfs0*fV0QAPzm
proMT>WtLr0ayuX6RFV?MTcv?=C+UmXp[iqOg>H^a2GSh;F$aop]eu|(Tmu@Rt]bCmwezvX:ipIQ]]1s/hZ]2f2)9Fik~O[q>#)s
!]l^:XBHPQbX[YFSUkbkr4]G<=z])(pjlInBcVDqwdb#hc;i7R5G!XZu&+AFhw=LxoTEL;5ImjAL1@imC7y)$m@:N+XY@M!XttAt
@C9Jo=Uo(Pzq1,oRsMysXv3>>@!XY=xp76ePzS/d8HiXmK00CELTHd6!#5%<1I_favojfd@QCMhZ)!85)(*7cC@6T2FD_^>%h<DC
14@q85h[YGs;OJ;(wQF?&C(PkonR^XdG*Iava4!]NN:_*OQ9t&mzpg2!XAqRF6a)D]tIM!(_V:>ocuWJZ[GE#,3_UmYAN#sD|^&?
9V)C(*i|^Q1,|Y~Tr49F24mrvmbL/rJZ;.4oM8iKxA(q/Ur54w|0Gy=#1I%:[<3TyTsWwPHEO64hqvBI5*^2V[oedUCBlKo~bK+9
Q)L$$s~2831z2lnxE@&2Ve]!o+zw42YF~ADxCu*.mqb;?PB=Y_evOv4Bv8U:uxM1fi7Xgw3Rz2(G+6EY>gL==9VQNOp>=j|n/D6V
TrHT,As/~uiZ$Kd5+M:YSfgTEWx&QG8CB._ZQcBN,+QsLqs302<xiZhRuJj=;j_T.^(!pDSvAFo=!!SJDhjd(!l:3f+Of/)I>h7p
!8Xd)9ZZk(1(B/kZF8ETF9AZ!>gNE,hN8kFM7wlwUi(l.IiZT*kPL(k;RZHvs=J5A5rY|,.%NvObw.0?Ad,P*Tf(%Sg2twD4S;PL
GRl&+Ya?bh[(bhnAIS;ER@i5q96u1gzd2u(pJgL5h3](+7_hpzp7:<>$uFdE0sAZtujU]W=eViO5D*PF/##3&*[Uc^3RpbDWQeVe
qW7y63E<kj|~D9_oZbETbT$>rhKx,j?J7=H5uB|mtVOowFHChp*J=:zYzZ2II+19qRtr>hj3[bC5TJJugpgmbXe;buIeXL=oLJWG
Lh=sB+gJiACS>D*;CA,1lJMd:iflOadkF2H4k?(scOf@)Q)/ckVZ(!t*=zQW^h45d|fX(a8S*nkBjt$qw~An67Zv$3EjZ93ehK#q
..ma[@hftgYbvMkISgyl*oK(nHZYt[F(z,OlQzIcid~%6<I@fU<Nrf^_r7f+[2])(7BB^&7(?JS3Ikr6X/dDwj(LOvY.dL(Z.b8F
!o[&3#tZ$f(|kvxvGc|d~6t3MpQTuYVibhpl]]%)1eg;:KX4fm%JRj15*gX3;zD,OD=~xNTPH<cVkfQkUYe#s6S,VY9t;!Qd=Uu8
I(%K(Bp:|aiZ4iAKvvwdubFBx[nCLl:B:_=TM/kcR|;Y~ztOkeb)ev8l8B1fl]xg#%ET*d8^=a&pSiH3DF)8a0(aYdg=d(K(.cQR
nS<PkvK$.F6B..M*!X&duEN_*x%rT~/kGCGLH%p9_P$O%kw1mk@XuV#X_E,o),7kmEUJsYiFcDKl2W]AY0k9SN$(@!Kv,g~~=dE5
Ey*FE4JxuutQhw3x8905VuU#5pW20xv.g[.kMn1lk~0gU+:QZj;Y>bq0DNy<EYIde6HNiF@SmnA4pKntax/kq5>%s0,dn:3SgCs@
u3^*z)(6tO6+!1QYy1/)rBD$sg4grOS0h=G8Xmj5PGdvm.B>_*0q.!TWpRg!HX8MUsCZ7eEb$:n:;R()wnM1.f4%&%hyYXN@e!(=
8E3;A;W?tmu3L2aV<U8SL@=3bkv#Je9@B6<iw(Q*cxy|0e3o,66v1Hp0aE+%rkb3)[(QHDSmj7[0Jk3v%)C<x]GUJaUmcY)|OQ~Z
[s]qsdnFLCJEQyP_Td3T_NQy/7ZIiO~O=f3Tp@7al:a3TB.|pRwbHcOno/O.;*To?+Y41KihGFxh(uD)~T:]Cxq$n&Whb<RmCuMf
?xHb%sEgVG!*PeEZs=!Sv4qe~c:k#VYKder^a91|&:kVh9zsHIUZwMN/1xUlWu<3zZ)Uh&ynh$5YCVJ_v9K*XPNj$Z#Cv,AhRL/S
0]n&w4KJ&j&GxF&HLpU1Trm4^wf|!$azhyH:/e,<Hj#5)b,m<RY^LO<HVu[Hb0XRChhN0EWy,bN6kfL0vQ$oZ*s|h)$7xg&.u81~
+4Y#htqUvBsN36gO%Ye1&Vl5rq#vK1WM#X~[_vFw$+qYL>@z^*LLd=1JD#JHfV/88>;5Ik)>Pa[;QplHKV6YkL?:A$l!*QQwlAs0
tWGb&d3$5_$oo?2B/;cED.Q@^]oa3&9rdaSBfDEzzs[jOtN=eziCk?Z&&3<JQ2Hl<$t0t?FNL~Jl|][|4JSi6Vc0gEuHHO/Nltx(
15OpYlm:zWN&0.XQb0U#yk8hNHrX[6@Ug=046Rvbat4zcS>piX)Tafus#bV4,4Y98v@T+NWQ7SusxtrYB+Yv#]f7<<v%vmJj1JZ@
7Tp7862F+5Fu3qhj^0VB>v.SO:u+2yy_%~hp[I*DODP@aFpt#16p3;LMvT=dm^iaSDOr)I.iT3Bg$zcsw^xgn.g*V7W1s1fx9Yph
;OhPdz/[(V[Hl%ZyUMzF00x;J^qU0?AzaS:%ZQ>h;5%r.E#[KPFI0Jq#o(ZtBnad~)SA?8YA3z4e3>ZUO44E;B;<!mcQE<7v:D5V
TY%[N4J27Z*#oLB=ToBm0(IxNWNiJ>QtzQXh[31of[<4N%c=ib;+nAaMVxHc4wU:I>jp60!i$>e61VjO#.PX?v~>|zTi0f>2Jj4K
q+F&%NMx51*,21|+#a;#/|7u0v#s=>IjuJxHY@dG43a2=7!fv<3k4C$5a/^!qb9NItb$!q4:jKYzj*bDsMQRKtmS$Ef~lX#bwWU:
|@2qC|u5WmDg5Gs!*[]cwURfd~92Da%KgF%^JZO_IvSEHR0GR&JJ!JUi;jeGQ~OZ8%eF8,U%b7eBkVy7MHU(Wl/!b8nW%kCnFNl8
VQ;6d.YhfMq=%w,0$.;CFb:+J.Mz_P2>2l+W9&i2R#&>T$+jCofGw(DJ84M;%P]02d?]O%UeNFg3.9@?ZoFX4G7wYJ^NKd.+e|%>
p[+^G$jmvUt6ota@o1?DGOD]Z3eWMX|,nAia[=E29HXT>Ti?nkD;ZVX@72<4_$l6&f8n%]PRS*KVI_ErHG83GRJI+TV@_~LKw[zT
oT;PHS4pQkRH^)_$7d_qml2QU#uAJ0JAgBhf+_+#uIQbOy^Do39?eyJ|IZs4I4K#Ud=g~pqX_b(?Zj?RUoK9MM?(otPJb7VUx*v;
cQ]G+]WbP]r69a&:|jZYm4?nPvbq4SVEdx%p,ohk=|]c2$[Y?n5/2s3>G)SmiD$l8lad%SeJrZH?YWF*R7A>i?ZTc[<~!?w^)dxs
;j,37(eN3N7+n2tiPD&P%EV7!Zti0;wm3JjisKXH3Xd)&p@8]JYC]!cAUM43=!e9+h:DcFjjWEl5A.QFanxO+?^id~8Glau@aYMV
>q39BFu*!M7Zog0Qc%<KS|Dg]%+l<xF[]B&u:g<=EjzQNTdlIS(S/I)?L,<alQT_.E1d3;5ds,jqr;Uda6%ee>:~9tZBM)a8Z(Q_
_:bc4GqfHZ&;k3>?9rGtH5Foq^WP57.=Dr)wFI8l>o?0%RU,OKL.y%iSwQUl_pA/+BI!V9.damU2+2N/BUF::]XYc/upP?AszH*Z
f!f>Fmj+7Po?F=n*o03NxB0F~|J6LS@of$yhlE+<_dkR+f,~TiCV!*5r<VJ330Dd^&k9cdviBC@J4w/AY&gvrF]JWdGHSzqs;2L^
p7Rb>!P2~DAppIJ,)X:.ubZm8kgY!F4sTTB3oZnA+>|OGRA$Ui/j:%oTNUb8R%O[B@0dWcDlW0N!=+E86k%/Phu!cZ7gNhlY7jcP
F7Bn:A:&?:F>i*wBX=#8:&7Ruul=9]_kj&v?bm?7qv|yE4GR]9g<F_^RAYYCs?Gk8ZrgsPGp#M>|pDxX5k>Hnh^,PkoZO3Zi%T>l
ZQC+*TKX$3XjRj.p&,Erry=RMf@Oblc6OjnQyuIjbblP/bf1C4pmihS]&B738JNkkn5|**zPsU@E~<p5nd0F79u!Zqf_DJs6Oy./
3b_(AI!+VL9#*aTdlRjQt)!O)RDG1*#$WzJ;hDvoqfF()m+v4F%4wd^]$P*,FUSI7D[$)[(.F6ie@kH5w*mp]xi>a_h*k>U<U:q|
oC?fB^9G#kGi|TakD4u8J?0|Th#k>>(>j|s:kPO7>M,n[]@k%Yf!4L8cZvZWJluwP:GS!G7F4knLhr^EA&,Dx]i0Y?9i?FiA/Cp^
1>CuCl=M[4bL63>)IX+9sG^@%?D=8r,iV84SBDrM!S!AcF96KJbRj2LX1uJ%~]Oe;gF7oL8gJvt:Fy,[lJvYCuNEX0G*,dm/~eNJ
Dthj<k<&kr02H~Wlq?afZbG!TSWKZ&:0J%N:,]/68)lNs9~tF<!Zg:>=L*>i~%I2K[5#MS)[8v:_n4Z:SJ*K!6qgj$>Q,[p:J5l#
<KKa=#yP/j$?;vEU<oo8cQWN_??:jNQmlI@z)j%U?up!ad.0|I=;RHJ/rS55nF/3Yz=zi+i][lV>u.Z%VTi3/35cUa?LRa$^^GY~
7M:t.Kpo]+_;UC&67X#w:/6PCZO<_Iqy7!W,4L(?lh^J^wkmL4jG?HM_fQ@)j*ZjR2].aAh%GXRU/co/9R;sgMl+DhPRpJx]z)8<
E_|hu:Oz)ed._F,w?Ymrh+M]<jC$T1e)HRb^Vk,9]8(9anIEkh8liZ4$!qQ;0:vB3P45H?Z#Hb.ZFT@5*^T?L*yews|gpCwoeo|j
^I)Y@E/t]]$<5:RZpy=QNScf[B@XFPs3eordz4O!=IFk~/<V$MHRyaNT*)BA5AD>y<=^lL:.)fzq.us/SiFmQcEQzaQa<Dprzr1Z
09bp%uAp;i3?J3ki>9x@/ud1o|T1k;l6xqfXS!=QX4r:tM|uBqJGG^2Ded|EzRl=N??mB~,>]@~f2u)q_o(rilV1fH#eUJenlG<w
GH:puL;:F1rW$v6&j$QVs*EJ5rV0QPL~)$(]lSLLXk;GFvbT<@G_EC!%RUYDU|rX,X6Qz9KPE4txz0+9(eDVrfgG$ih#n/D#<cQ$
s61xpNxwtC|aYa~Pas(AxvCyrbg^)3HL.AV_Me?=GW(Pq2oR,C&*,fs&tV:RLR@s!i4GxEaQQGg%r$xKVYHS$i4!Y&_2r7g0#hIu
PtAu2M=GnDepyl9s;WiG)yQexMmwIk=$h0gpEy1vliESbjHXTH?ho$1)S8DJy/CaJL(~8viaqJuYex#0WSGxl[d1:1nl@RXfiN,s
,|3RfxgS>oDHn!uuBJa.]@@?!NQXr??@Tp7@^#Z<^!&]6@(Zao!Hq..oEQ<06n=E~8<87#k3+u>qSHgco.)s1:k?)v;mESbEw&&j
2tc^7~ymIOe;zq#n+wP.lp]whRTPMCvs(o=i?Nrn!NzXgf6ew/KWjICrROiPx41/:hsLcj1:Cl%uHx>(K@P,r(!;zcGN,#LlMzCL
mZ%nU+N&)~B/rQO:F<ex([lqT*l]Ub1Ufm60iq&5W?NP$ZNE6V%c4=#*a8ekPf8rPDNQnN%<dF_kgh]k1*|6(KMAEa[0axy>isH2
i,U,4,0Iqf?Lo1^*/_98)YV!wcUm=td*AFJU;EGT8#?GrZdJjhm,dJ<gD&6]nE%PH^4il>x@nMsRg@Oru,0e)o5>#Ev^XyUPI[Wz
q$]A>g;P7DY(N)(ng%_OWY~#n4BP;%4QOktik9PS+560Nv#.vbyI<;?Btp+i#TI=VDpI>>jOr$bQ%[kL3t=%0_^6Mzk(Y7qt)z7R
;2bl#AcO,>)T72z:DT+<px%_vO|NKf8NAEBieW/u2lAtf4_WRU(x?32c$O9Mr$e]Gr4)<>O>~b:_m$SGwQc<qHS~Fqw7S;x2ex>f
|JBlNK(EaR)_>Tmy(&Dk>0@U5D.G;KVW>l|F+w3dxF*8tsG;[dfrnn5|7]FZE2*?kMd8+C1%)UXJ:<i7*Th%*=&rHd9*bd%sfHuV
8iEi%2hcXe;(F0eXyTHIQ2mI~sN?4Luj/Cr8Y/hqoG=D!6??(n5QKSe?wT;a@QkWs.[HX@Cqy=T,:mAfTYN(xf(f4kQxA%Aa*DNo
m@;R+Ivt%PrH2*CJ~<p3x/$.wh_lzPZ)^x1oJ_=6>X@jL+d$|m^5j%aCj$E9/6=uAKgD/X/chJLJKJkl3XA]hM:b(<bg!>+@.JUM
v@uzV@Jw_5et^%L0NXtF+f);t1Uk*Em_~r$2<8SQ[R;vZSpIm2%N.m33?hA8=*;6%6SgFpIH%mQ;AjL[RIvqFDLesWfbDK@v<pGO
%cr/T8zCtOH|&2u?*r&UW,q:]g!f#xMJ[,#tU/i5/)4&]IHvN:ADFL*UJRvD],36L^e@|0VgdXeA_lVqI$#m#LBv6q9Yv(3O6JNv
g7I:]Gs*u[@_xWv;(=:J+H(T+>pqvbv:u1I&JE>4T6xZ?Y0>Kx(Do2cOyyPEt;+y@v|PBG:f?z3Lm@^s*7?_VaefLSIoil]%.kE_
[8IZ[6oS;W>:ayRe^h5>1:7sGJ=QlYQf?/I6e<Q6t/V=G^g(Ye;Uc+|A~+;io?v(s8D+<RUkjT(6Crn9Wkn3ymp:@3YU9,Kf;_Om
oCi&7IMganU,6dsYSLk]&#RKn4Is~Cp3rgEa[2%VnOqpFt6&cQN.?wG]L^$8QRAjQL?jQ.F,#x_c]0;QgB190ucpqV=jiSBlz+Mt
^J)%9RrHgi/Kaxlw+66DPiVSLYjz]2sXOpsow|zpWnS,v?T2Pth%ml_>ASvU6RsHNA5y0*^YdS$>$!d);g>5d$l,udU.uZ2**wr?
o81Y4qY&,z7/]]>?1nsYZmqS>@.*6t5Ht5K3vWk,HJvGh|0#$8f1;@OlmCdAh<6[.YJL_4;Ntd,wIs[Fas1rjTQr7WHlZl9hykDX
3/GyhwkpFJr&m2nRQgCnbD)6m!Hdla10qGcK/S[e,v#<,Otp@<sTRprDi~I@CGpAW*<S30?+DB=!J3&oHE*,q:CRc&UE|7uyLm1H
|kNJ^k&V,5=$A#^^>%Of~B<uqyc&@<W&MUSAO9p<(gXP|BO?P(Ywv6eXTyrpj,gI<dE,;.jSJ~aYpHbFo2^f1GO&GI)!ZQWPZ@8>
E/*9wBOlIxiY3o|Ypw(<8UoEWP#k.x8g1E5lm@&X;5E7|pEW[5Qg%#TYWJ1m:;79^Gb@8vBgH9;c&L5?#1+22hm1kHy(GY((iyi[
4@4/Pq71**JC/[A5ydIzckkzEq92ekWXSxYbi1?H[GDv~o<H(2r&|&(*AR_w>(uASUJKju,J>k.ken;2g,/5=3!0*P^$cn;bw.xE
NzO+.xuKAa[<v!;3UEDNI|*z$?k(y=dwDFxbT?,Hh_t/2]I6QaCNGFrYA*ibr&=)JaGq(X%l2k,hP7$.?^N^X!Tk;G!*BuJZL.NX
ZFe_PAf#j:vC/*UB_(6dS((~>14_gsaCI%#fbD#.(Ut:pWSVznowULY*M,/cM5oW!=T$,x~8DZwf(!PJtqNEh=FeN=7oIs1TGUdw
2V=S|&ld$oL9(X|H6xrMk.?TOPgvQ@iQYs75m8)zvzf?P%?&&h9~T?QyQ7ly?VjjqX,dJbYpb24@+zunn2Am|W4c_0|UccbQBrpK
6hg1i1J5~Ep4hy.zfd/Oots9I)F]blqcBr:%;!@GNPn4X=j@tuM4,;H>mD=~f$rKZSiW?Mwl_u,o7h~aDp1Wb!m^w.Pg1]0X;muH
<#22M3af9B5KeUFa8C^2[z]v^TQ;3)fujsu?)iZSr0h1(,Kr?a*G,V&8*o$0+x_^;s(64tv)%S8Dd3,R<i;j13LCsl[i~>8GB&wI
L.,#XhpU8:cdJlAakbG!%AraH(oyW0j:RolWy+!2e$N[=h%duU+E#12jxm33Saim[*qR_Z0%g0FarcqR,<[/2bp!5?7Q1R~M<emU
,Dp6.w;?IBxL!rQNW>/R(4I)UvR#.C6.%wYwgn=nv5YnTStrtB?GB/A;PXNsg$ylux+Px3Y2)4yGmqp@VfpLj@3Eh@_(rREj)uF1
OWn6xOuc)9;mSFs$<jzED2z=LWi5xjOyy%_PM?#n[4e6uD(Z*.0:WYXM<O+[U80:bIL5BIL6ezH+$km#w(u];]FTRRz+BjEH0(eR
G7D0:p((A3EfGHbQf3==p.[SYxKhx9oRQWX=J<[wi&bych^L]V,uax*~jfTXuA9q(L5ark%9v[s+xgcvkI/Nrccjzb&b<oM=Xw8<
.tFL&J086PD,m(#GCYd>d|cd%gUCd%:6R;Heo;Z^5?X+7Tq9eX748v>A;T/1D(mk~_h,4z%LD1.NpO:eCW!FoG85Gr[(GVUEhAs?
O=xJ<P8!6j,RIqP+)C]2XAOaha;ZK;)+1T<B*jR=C#y?G^@w*pHV/LY?L(KH.Ay.lV1&7E$#Y%h.F+72#]%jJ.++3>))S~RiPFy/
|tka4;C32+X*wvwcj/+k7p:[SDaPCD7IKrl4PXMlq2t(X^<KFo/?Tw>F58~IO1.6&n0!_,|OhN|W1rt94&=.ZYzg5zSVWjU#wz,>
G?2/^X5<t4ji_[Oj19Qb&RLYO%,pcd@p=Camh75OJ:pKr38I&*zK[tXR<eyFLh2FDvwIv#omT13G]6>&bg6_s6/3G(6mEKy$^Z&I
ediVQSg>k*y2PguyaAGtnp3lgP]]$ye9:vrBa>,NG.4;:r~25lfC*hdV,luu@ZUb,LP!6$q,djlg(=~p%=$41Qehsw]c9w;7<E+:
@xZ9q)#=LPWOL<iToTS[yHmn!3<y?Vv<eJaEC*yxSMAj?m_5E]kbmiu)vz[X!4@j7!kd[Yqacb,=[[H~$Ng]H1G]A3<$xvIF,RVY
KKLY5O#|@HS9)M*wC6=)^.n4g;LN=yk3Ru&8xcSWSLCwAaJws!bYo2H,J+HmHd|O[a1kHq91+$YK);3_8O^hi?2?~EMv]DmrPX16
%l~%xWk?!|b[(X?1fxcG&Ty.?352@]u7bgHCrDj!ZuAGe32ah@V(%lxnw&W@oBlw:5W&I:._ww*D|;!p#afO&wk2++P83c?:_MJd
.L|YC?^H(CveWW)S$gP8.+::e(+??nx:.JW$A.+YQ.H?1:LWll4UjIC=eQ(lRyiMgr5B!]RALVa7m%D)3Ug[D?6hD]$=Np0*|lnN
NfJ^IP(dxl7e>OHw~t<tCdUcj7d69u^;|saF,bU~a?rqe,<n:,le&/2*;.uOZ9s3YxsT25VQmAohfzY9%Ml~Nnv$6PwtjegmY!4E
xZU00_!bIFF9287#/3Z=q?<Y#J]0Q[qz&vz3El4Bdw6%)s&r+oPW^ge;;1pX>*+Q.5ygsB_gmw4MZ_NGz1.qX+<(@1X])VMO~u6W
s.tgHDLDT:)990NKlmU;;jmtSFCts;nG|ydO=<RKjl>j$S+44swp))G*j!1o!<Vz*!X/3mj9|EUSoluE/~WF.9I*GLGxd%HW0$W0
a(B~u+tnbb3_nHNh#ynr%kt]1I>LGFHvd1srLA$h3y#K/#SPj&v*8.u4/+^<MV*k0/C^glOZr>y%ILj!S?CzipW%q;~Rg5(/,?Z|
wCe,:UomU#>n54?M5Q%KTh5NFL~;K<;K4pW@Xm_XTx<fQZ.pS;e|Y_w5w4~e4i5apJRf~Mm^zCrv_ESTp<1EQ$wt6tm@pN!L0B.Y
d59tmr5rm.*K(d(@<(MXXn!Z)~ZBK(m=409/nbxc.,Naw7K+/CSnm%wuA?Cs_]h4f9]DQ=!iW*r4jDwphJ~]K8D3dKuJTiFHuru6
]|4OgYj,ryHYb89l*@+rt2yoKQ5HQod6XnMc+jJaB&[RuO>4YCbqu1w)zzckwF!@71qDM*,@%y]?dS(tr;4NcbK~WA4*S:pVm54|
lzqh/+.mXsaM*cga<AfliKcSn=vv#6jSR:04K5H;s?AehClW4EN.2s7Yo4eIk;~g_r#0z/Q&L*S6)<>:Mf~>5l2uyC;(~b|BAij!
VSTtSZAS|jY>EImeI[YygQk^6HGH64h1I!.w&3g44|ixIzqb=6t#gQpIII8xGt?]UFL+|m,DBzoyeC]T5e]+<5o5WOvjh~i#](ic
_R]jTxv72~jCPN<ETW1bTo;bvlH|Z3%.HGs.[0YyrD1U32$Z@[F:<Nviq4t!jwFYC2?.2F(LV/YhaBX/Bf/]O.m.icF0n(Y.6V4C
YYmBKOp%fIsghpbaav@?2zhatA@[_T4?I)Wky9<iHr1unHadyX>cvX;(_i4R*LH@b8<u=FM4#/<rcM;>fc#KpzQb:2vMNb>:7kE~
R6h)Jjot]V/CDRa4R|;P~Dv_3.P9^F7xrE);D,H7?(ZDX1i#>6PKE0AGeG0fgS8zY,$sRVzUu3U8Ckm^(RPL@d+hd/t;cEa]Ib+(
,bS5e*d1.P&.S%GgM;38$^|MC$<JMh.#o1fUc1P,%~M2gFyqD6(2wPIG1qy5rG~Mu(|@MJhW5c$~5ouwub*TN*0Tt~(@rCeG.Ypi
ZkX|>bvBnUcUMc^2~<v]3rXRhj;BR)1~oViC+/fqxWfx/63ba53YIV#BwnZCpO=+HyB:Z62B]&$A4j%NMm@4$;q:x8bSd,/1=XAl
!D/%Z0J+7~@$M&p|c=mBx:<;iZHf#C?|+RVR?/X@4BVCoT%DpqP9#&=>xTy:oteB,/)rAvK7Gd094qkhf<^v|$L;P_]j#/!Xb3,F
2:Gs&(w|ZUWzuMtqc1b,Tw*4Q!5y!rC*+3x)_Uxfisy7L@!3G8q7;%jVIEckWUdABRl#NwzjpBmEp8grp5*F?y%sA5nE10WzP1#$
0G_C~s[_M1WSn,x*(B9iJoyUGO??PPun)~%7t8k)W4tyMz%i6o+Kko.|Pg:4eY$7(O%uP39:cB&uh1tnh=Nhq&470.pdqAzi;nvj
DKbg^1hvTB/Gni>vDy%|C_K>,xoM0OjjhqaZ6r$/_F5h.zEgT)kv2&szz!6^:;XS?+~nuy]<aJG1&$tA>^Hvb/7[h;oMcweVjDgm
My4v@N/9yP!:pQ$C#dOB_0%E/=5^Ylr3sN~Dc,aX9)cfxy3JEkTKLfhcn5([S^3WLl<%^d]]0CR^@?>njU7B9~<~$a!)3@,!(c~W
nS|<)?)pjOL^p%(_@,UD>s?NZbHZRMxk9*Wk_*H:B(c;I5Cf5bQ6kh:h(*Uge.oQkw%?:)EPfcLz[)QI;Smzr:eBy@A6%5g%.nF)
,uKr?Mg)[w:1>.Ga?rVQMiK|z!FuNeUdSf)ofMwk$nuCsVwZVT[ZplTQ9O>GL+!yR,R;Yj:]4j!t~q0ukeqFbv_M|l/JaGv6X;G#
s])(UOpVY2N>w|<*uq@ZKeB8O%:IurYa1:B5OI@_]$%xfCLr$o6>.]H02hTfTkMeI%VGCiHV[^IGu%*__7rTuLIpK]D4/.KW*QxE
#aLxJ$1;1FueqV?Q7sZ,~RBLnqhJ&BE[|EFtMnAN7,mz_sptp5JTfY[3n&)g2T[=fXdP&&oK9?c1d_AtkDl=.s@MH!RMXPx#xn4|
=5MvFJWjW261B@.$F?P1*Lq+p@ZU(5+_dT]+D&>rHkJQd#:MBZD5N&LV,.kn<A<1I:R$n>V;^!|JOC03UM7qYT^<qdzJ;?S7f0XC
aT#Js?t&)sfZlRejbKHVdL.U:z<Qnl8)riE)0fZP@1:kPlBI=U%t.NJt2%A|G5oyzpG^Da.?L;a*y~xf|GX?;jBpVOY=a:eLWY#f
@?u.@Ev[A#4Z[DQ4);2|f|%%og**I+2NighT(S6=z4Jm%XX|!sCnl>$WqjtcDFS@a8kcSg]#dE1poNlJFuV%H[a<CMH1PAL;)(*b
?.rsl%p^N!>[)RyMI~Ew^yhOR0gX,sK]SWNnM)_YBV5h%yso0wdWIX#rIynpUN0LOS4kajp%;wzA.#3PT%fEHaBVS^B~m^v*x,nu
(jf6c=JUOkurZRuzo;&fq?Els/Bp5b>CK$9w0Mi6Q8j(66JEr19:~,jz:mMRX(.38S7wPIRZ/yndE4V81h/~%/1=ai.np^xGIzMU
p8/K|:|Hph@%|x7vl&~z_kr8pmVAXjJ$%z;;7S%BMV>Rgu?;RMr@Fjb6A4srDanX]FskD*ThMA+%jJgJ5lEB/#0Qsy|+.w7wV1xC
XmhP@D,j+C0jtxbPW6=y8,_VkzQx_WWQzTG1PqR~j_D.zZ2W1No1FnBQ9NWWa(W|A@=B**%$#NV^5rOV;a2kBDuFQ/vAM^($LHc/
H]P=>iL+ioenlYeMlaNIMl~QqD:)64hZIaIb.V9$olC=:61KZ=ea&|yNQPh0=FvI+eA?eOwW=_?Dd//QV5XshgK:XXTE2/Bh5L7r
/F&4rRS9l;5.r0T8~~Pn]m6FGvQO+*XQl[R_kVk~X&%@bgv;U@#N)+r<;xoW+B8X&v$3ocQ3CcuvPu$7MpPW09;v$H(>=M;H1]WD
HbhTPkoB>AkagHZyrufl085bTmaj=1R@5z<#2?!qQtw$GW0EYWvG$dVZ9D0*9#r|!xZjoB&76j*HZeR)+Y6Z7fb]dmL?9R[o&?o.
5P=b!D8Ty@z^p7=<]RC;gBK_vwHV#Iyj5)NbkQX>vF%m$PW@!#1)|&uQ#unw7h[*ok%qbP%5/O,3fC)_LCE2=8iACAZo.(ncg3UM
=lcaheT_RkHDL,sxHD&xW37MYSVc_0vy)?SH5R:.z6cvyIn*/]>LiLS]I1(U))W3Vi7]Z&1nB7/0i)3PQNgYd/vVk]chl?/jPZa^
7>$H8w!M+3P$Y2VE;&S2YUGSO7dgQK:J#kMO4X5$h9u3/<iMILQ_yLa7C#T!RC(l?%~Fa$E>9*)6SrfX/[[Y,K;mHnx.LpC[lxEt
Ou_4M,o$C)5/%PD(hr0]|RSRJ|uj?w,*i]m/[%|_w1eXS+P$9Dx8UJp@Mk[Evn>dAK,8QqG)MzC79nFyMp*&u+li,mZ0*wO%JjVK
$I2BJp1,<E#WDk#!6vk]~+!O13l0x.e_kb%uJUsU|1~?%f?F3r5NtWK*]>h+8/D.^ceaKOL3Ebs(n7h=v73fPd>)bW~yH!^KWO[J
TUU]9BTy5j0]Hirn_dK>b$ibtHoV8]2NJPollTfl+fcA+QMvTWLV!S(tS@j6Wu6/wX7niXGB|2E/52q~8tXku7JMF[75eT!sKDU(
68MAVOZ*oZv%kE%/vcD)uY<N]T>|xP~btt|9OQTNir2dN.XosIad3bc<>!B|!)N*c1q(vf(SrZ%b%qVC.?Z:AG+f~;b>UGH?m8!K
/2w)D=D2%J]g3!x<%yu>g/+_*Zvtyi.:z0mJbrK.@PY9&JASlJ,L+6_M+kR3h=K9@HJKP>nTZNiWo&1DxuJqhm0h+8+09f*Tb3=P
G=X7b37nkSRPSd7*I$_fPU_m2DZoZ)RmPM]u#^PEYK[;3a[nGvfNo1Q9iCys.1SzyC+oTVs,CmK%4d@_]n#&>y.&yC)<cZK,5G&[
Zi*K(bXCF~R3RU>i51q3=lUVyR~<mhzm#8sP$.B/#G/OvL9Oz8#5)<8raR*rEAIy)3v!y[ndQYExHrypk$>ZRT7nnXt/<avS[.9H
fUYi$VPMTa#Rs<.$7Uqx1pSrk&cKcdp*%7V=zEo$VK.jzK*wZg;Sb,f[Bz4>kfW)Q0*3RVDp#Oc_2/#zq=.hoBEPl9lI@Z84(9KP
b@]Utw|m6#@8iCQGaY|,]FVnE?G1.]lB*f.X;4]oe*yM(GsC^E]@;onsrj7],QyID8T|VCO#!eVJRvlEo3v$#8v!p[Kc3F/Pc+3V
8xLFUb^<nzZYV@CjZ+@uEm(n~U()37/@o[EXKQ0WO,4J*)7YFqn(;YLfd/.#[Z+|W%?iA]J6X8<?FZmQGs,=P1zD!e&PF&o^DwuH
MXPlO<>$fld;t,xuBQid$O2;_0*|IYc48>jM|V>#wUzFfX&l>@zpD~P0Rk_E0Mj[Koh#o$:(yyE:ejA%FhQ
"

end DataDiagram.Text.CharacterName
